import EventPipeline.Concurrency.Simulator
import EventPipeline.Portfolio.StateStore
import EventPipeline.Postgres.Locking

/-!
# EventPipeline.Portfolio.ReplayClaims

The claims on the replay of a DLQ record as a system: automatic replayers and manual
replays call `claim_dlq_replay`, `mark_dlq_replay_published` and
`release_dlq_replay_claim`, each in a transaction of its own, statement by statement
among each other.

`CallEffect` says what a committed call did to the claim rows; `replayRun_effect` is
the one result about the statements, and the guarantees are read off it.
-/

namespace EventPipeline.Portfolio

open EventPipeline.Python EventPipeline.Postgres EventPipeline.Concurrency

/-! ### The calls -/

/-- A call of a replayer, with the request, the generation and the owner token. -/
inductive ReplayTask
  | claim (request_id : PyStr) (replay_generation : Nat) (owner_token : PyStr)
  | mark (request_id : PyStr) (replay_generation : Nat) (owner_token : PyStr)
  | release (request_id : PyStr) (replay_generation : Nat) (owner_token : PyStr)
  /-- Anybody's write of a request status. -/
  | storeStatus (request_id : PyStr) (payload : Dict)

/-- What a call returns. -/
inductive ReplayAnswer
  | claim (state : ClaimState)
  | marked (updated : Bool)
  | done
  deriving DecidableEq

/-- The transaction of a call. -/
def replayProgram (rt : Runtime) : ReplayTask → Transaction ReplayAnswer
  | .claim r g token => do
      let state ← claimDlqReplay rt r g token
      return .claim state
  | .mark r g token => do
      let updated ← markDlqReplayPublished r g token
      return .marked updated
  | .release r g token => do
      releaseDlqReplayClaim r g token
      return .done
  | .storeStatus r payload => do
      let _ ← storeRequestStatus r payload
      return .done

/-- The steps of the calls. -/
abbrev ReplayEvent := Event Stmt Stmt.Res PyExc ReplayAnswer ReplayTask

/-- A step with the states around it. -/
abbrev ReplayTransition :=
  Transition Stmt Stmt.Res PyExc ReplayAnswer ReplayTask Tables Ext Write Lock

/-- The system of all calls. -/
abbrev ReplaySystem := System Stmt Stmt.Res PyExc ReplayAnswer ReplayTask Tables Ext Write Lock

/-- A run of the calls. -/
abbrev ReplayRun (rt : Runtime) (hash : PyStr → Int) (s₀ : ReplaySystem)
    (h : List ReplayTransition) (s : ReplaySystem) : Prop :=
  Run (engine hash) (replayProgram rt) s₀ h s

variable {rt : Runtime} {hash : PyStr → Int}

/-- The locks are all the discipline there is: nothing is asked of the rows. -/
def replayDiscipline (hash : PyStr → Int) : Protocol (engine hash) :=
  discipline hash (fun _ => 0) (fun _ _ => True) (fun _ _ => True) (fun _ _ _ _ => True)
    (fun _ _ _ _ _ _ _ => trivial) (fun _ _ _ _ _ _ => trivial) (fun _ _ _ _ => trivial)
    (fun _ _ _ _ _ _ _ _ => trivial)

/-! ### Keys and values -/

/-- The row of a request and a generation. -/
def claimRow (request_id : PyStr) (replay_generation : Nat) : IdempotencyKey :=
  (dlqReplayClaimRoute, request_id ++ PyStr.ofString ":" ++ natStr replay_generation)

/-- The character in front of the generation. -/
def colon : CodePoint := CodePoint.ofChar ':'

/-- A row belongs to one request and one generation. -/
theorem claimRow_inj {r r' : PyStr} {g g' : Nat} (h : claimRow r g = claimRow r' g') :
    r = r' ∧ g = g' := by
  have hcolon : PyStr.ofString ":" = [colon] := rfl
  have hsplit : ∀ (s : PyStr) (n : Nat),
      ((s ++ PyStr.ofString ":" ++ natStr n).reverse.takeWhile (· ≠ colon)) = (natStr n).reverse := by
    intro s n
    have hrev : (s ++ PyStr.ofString ":" ++ natStr n).reverse
        = (natStr n).reverse ++ colon :: s.reverse := by simp [hcolon]
    rw [hrev, List.takeWhile_append_of_pos]
    · simp
    · intro c hc
      refine decide_eq_true fun hc' => ?_
      have hdigit := natStr_isDigit (List.mem_reverse.mp hc)
      rw [hc'] at hdigit
      exact absurd hdigit (by decide)
  have hkey := (Prod.mk.inj h).2
  have hg : natStr g = natStr g' := by
    rw [← List.reverse_inj, ← hsplit r g, hkey, hsplit r' g']
  rw [hg, List.append_left_inj, List.append_left_inj] at hkey
  exact ⟨hkey, natStr_injective hg⟩

theorem claimKey_eq {r key : PyStr} {g : Nat} (h : dlqReplayClaimKey r g = .ok key) :
    key = (claimRow r g).2 := by
  simp only [dlqReplayClaimKey, bind_eq_ok, pure, Except.pure, Except.ok.injEq] at h
  obtain ⟨-, -, rfl⟩ := h
  rfl

/-- `f"claimed:{owner_token}:{request_id}"`. -/
def claimedValue (request_id owner_token : PyStr) : PyStr :=
  PyStr.ofString "claimed:" ++ owner_token ++ PyStr.ofString ":" ++ request_id

theorem claimValue_eq {r token value : PyStr} (h : dlqReplayClaimValue r token = .ok value) :
    value = claimedValue r token := by
  simp only [dlqReplayClaimValue, bind_eq_ok, pure, Except.pure, Except.ok.injEq] at h
  obtain ⟨-, -, -, -, -, -, rfl⟩ := h
  rfl

/-- A row records one token. -/
theorem claimedValue_inj {r token token' : PyStr}
    (h : claimedValue r token = claimedValue r token') : token = token' := by
  rw [claimedValue, claimedValue, List.append_left_inj, List.append_left_inj,
    List.append_right_inj] at h
  exact h

theorem claimedValue_claimed (r token : PyStr) :
    (claimedValue r token).startsWith "claimed:" = true := by
  rw [claimedValue, List.append_assoc, List.append_assoc, PyStr.startsWith_append (by decide)]
  decide

theorem publishedValue_not_claimed (r : PyStr) :
    (dlqReplayPublishedValue r).startsWith "claimed:" = false := by
  rw [dlqReplayPublishedValue, PyStr.startsWith_append (by decide)]
  decide

/-- A value is not both. -/
theorem not_claimed_of_published {s : PyStr} (h : s.startsWith "published:" = true) :
    s.startsWith "claimed:" = false := by
  rw [PyStr.startsWith, List.isPrefixOf_iff_prefix] at h
  obtain ⟨rest, rfl⟩ := h
  exact publishedValue_not_claimed rest

/-! ### What a call has done when it commits

The effect of a call is on one row, and it is stated by what the transaction saw of that row when
it changed it. The row is locked from then on, so that it is the row at the commit too. -/

/-- A stored value of a claim in progress. -/
def isClaim (row : IntakeRow) : Bool := row.request_id.startsWith "claimed:"

/-- The claim row of a request and a generation. -/
def claimOf (t : Tables) (request_id : PyStr) (replay_generation : Nat) : Option IntakeRow :=
  t.intake_idempotency_keys (claimRow request_id replay_generation)

/-- One claim row is changed and nothing else. -/
def PutsClaim (t t' : Tables) (r : PyStr) (g : Nat) (row : Option IntakeRow) : Prop :=
  t'.intake_idempotency_keys = Function.update t.intake_idempotency_keys (claimRow r g) row

/-- No claim row is changed. -/
def KeepsClaims (t t' : Tables) : Prop :=
  t'.intake_idempotency_keys = t.intake_idempotency_keys

/-- What a call of a transaction begun at `now` has done to the claim rows when it
commits, and what it saw of its own row. -/
inductive CallEffect (ok : ReplayEvent → Prop) (now : Nat) (t t' : Tables) :
    ReplayTask → ReplayAnswer → Prop
  | inserted (r g token) : claimOf t r g = none →
      PutsClaim t t' r g (some ⟨claimedValue r token, now⟩) →
      CallEffect ok now t t' (.claim r g token) (.claim .claimed)
  | takenOver (r g token old) : claimOf t r g = some old → isClaim old = true →
      old.created_at + claimLeaseMicros < now →
      PutsClaim t t' r g (some ⟨claimedValue r token, now⟩) →
      CallEffect ok now t t' (.claim r g token) (.claim .claimed)
  | alreadyPublished (r g token old) : claimOf t r g = some old → isClaim old = false →
      KeepsClaims t t' → CallEffect ok now t t' (.claim r g token) (.claim .published)
  | vanished (r g token) : ok (.ran (.claim r g token)
        (.selectReplayClaimForUpdate dlqReplayClaimRoute (claimRow r g).2) none) →
      KeepsClaims t t' → CallEffect ok now t t' (.claim r g token) (.claim .published)
  | persisted (r g token) : KeepsClaims t t' →
      CallEffect ok now t t' (.claim r g token) (.claim .persisted)
  | inProgress (r g token) : KeepsClaims t t' →
      CallEffect ok now t t' (.claim r g token) (.claim .in_progress)
  | marked (r g token old) : claimOf t r g = some old → old.request_id = claimedValue r token →
      PutsClaim t t' r g (some ⟨dlqReplayPublishedValue r, now⟩) →
      CallEffect ok now t t' (.mark r g token) (.marked true)
  | notMarked (r g token) : KeepsClaims t t' →
      CallEffect ok now t t' (.mark r g token) (.marked false)
  | released (r g token old) : claimOf t r g = some old → old.request_id = claimedValue r token →
      PutsClaim t t' r g none → CallEffect ok now t t' (.release r g token) .done
  | notReleased (r g token) : KeepsClaims t t' →
      CallEffect ok now t t' (.release r g token) .done
  | statusStored (r payload) : KeepsClaims t t' →
      CallEffect ok now t t' (.storeStatus r payload) .done

/-- The effect of a call, from the view of its transaction. -/
def ReplayPost (ok : ReplayEvent → Prop) (hash : PyStr → Int) (task : ReplayTask)
    (a : ReplayAnswer) (v : TxView) : Prop :=
  CallEffect ok v.startedAt v.db ((engine hash).applyAll v.writes v.db) task a

theorem claimOf_of_puts {t t' : Tables} {r r' : PyStr} {g g' : Nat} {row : Option IntakeRow}
    (h : PutsClaim t t' r g row) :
    claimOf t' r' g' = if r' = r ∧ g' = g then row else claimOf t r' g' := by
  rw [claimOf, h, Function.update_apply]
  by_cases hsame : r' = r ∧ g' = g
  · obtain ⟨rfl, rfl⟩ := hsame
    simp
  · rw [if_neg hsame, if_neg fun heq => hsame (claimRow_inj heq)]
    rfl

theorem claimOf_of_puts_self {t t' : Tables} {r : PyStr} {g : Nat} {row : Option IntakeRow}
    (h : PutsClaim t t' r g row) : claimOf t' r g = row := by
  rw [claimOf_of_puts h, if_pos ⟨rfl, rfl⟩]

section Spec

variable {hash : PyStr → Int} {ok : ReplayEvent → Prop} {v v' : TxView} {r token : PyStr} {g : Nat}

theorem keepsClaims_nil (hw : v.writes = []) :
    KeepsClaims v.db ((engine hash).applyAll v.writes v.db) := by
  rw [hw]
  rfl

theorem putsClaim_singleton {row : Option IntakeRow}
    (hw : v.writes = [.putIntake (claimRow r g) row]) :
    PutsClaim v.db ((engine hash).applyAll v.writes v.db) r g row := by
  rw [hw]
  rfl

/-- A change of a claim row is under the locks the statement takes. -/
theorem putIntake_covered (row : Option IntakeRow) (ls : List Lock) :
    ∀ w ∈ [.putIntake (claimRow r g) row], ∀ k ∈ (replayDiscipline hash).keys w,
      k ∈ ls ++ [.intakeRow (claimRow r g), .intakeEntry (claimRow r g)] := by
  simp only [List.mem_singleton, forall_eq]
  exact fun k hk => List.mem_append_right _ hk

/-- A change of a claim row, carried to the commit. -/
theorem put_of_rely {row : Option IntakeRow} {x : Ext} (hw : v.writes = [])
    (hr : (replayDiscipline hash).Rely (Engine.extend v [.putIntake (claimRow r g) row]
      [.intakeRow (claimRow r g), .intakeEntry (claimRow r g)] x) v') :
    claimOf v'.db r g = claimOf v.db r g ∧ v'.startedAt = v.startedAt ∧
      PutsClaim v'.db ((engine hash).applyAll v'.writes v'.db) r g row := by
  have hsame : claimOf v.db r g = claimOf v'.db r g :=
    hr.same (.intakeRow (claimRow r g)) (by simp [Engine.extend])
  refine ⟨hsame.symm, hr.startedAt, putsClaim_singleton ?_⟩
  rw [hr.writes]
  simp [Engine.extend, hw]

/-- The part of a claim that looks at the row it met. -/
theorem ensures_claimExisting (hready : (replayDiscipline hash).Ready v) (hw : v.writes = []) :
    (replayDiscipline hash).Ensures ok (.claim r g token)
      (fun state => ReplayPost ok hash (.claim r g token) (.claim state))
      (do
        let existing ← execute (.selectReplayClaimForUpdate dlqReplayClaimRoute (claimRow r g).2)
        let existing_value := existing.getD []
        if existing_value.startsWith "published:" || !existing_value.startsWith "claimed:" then
          return .published
        else
          let taken ← execute
            (.updateExpiredReplayClaim dlqReplayClaimRoute (claimRow r g).2 (claimedValue r token))
          if taken then return .claimed else return .in_progress) v := by
  -- `SELECT ... FOR UPDATE`: the row may be gone since the insert met it
  refine Protocol.ends_call _ hready ?_
  intro v₁ hr₁ hready₁ _ _ _ existing ws ls x hexec hok _
  have hw₁ := hr₁.writes.trans hw
  obtain ⟨rfl, hx, ⟨rfl, rfl, -⟩ | ⟨row, rfl, rfl, hrow, -⟩⟩ := exec_selectReplayClaimForUpdate hexec
  · refine ⟨by simp, fun _ => Protocol.ends_ret _ fun v' hr => ?_⟩
    exact .vanished r g token hok (keepsClaims_nil (hr.writes.trans (by simp [Engine.extend, hw₁])))
  replace hrow : claimOf v₁.db r g = some row := by
    have hview : (engine hash).visible v₁ = v₁.db := visible_nil hw₁
    exact hview ▸ hrow
  refine ⟨by simp, fun hready₂ => ?_⟩
  have hkey : (dlqReplayClaimRoute, (claimRow r g).2) = claimRow r g := rfl
  rw [hkey] at hready₂ ⊢
  have hw₂ : (Engine.extend v₁ [] [.intakeRow (claimRow r g)] x).writes = [] := by
    simp [Engine.extend, hw₁]
  have hlock : Lock.intakeRow (claimRow r g) ∈
      (Engine.extend v₁ [] [.intakeRow (claimRow r g)] x).locks := by simp [Engine.extend]
  have hrow₂ : claimOf (Engine.extend v₁ [] [.intakeRow (claimRow r g)] x).db r g = some row := hrow
  generalize Engine.extend v₁ [] [.intakeRow (claimRow r g)] x = v₂ at hready₂ hw₂ hlock hrow₂ ⊢
  -- its lock is held from here on, so that nobody changes the row
  have hstill : ∀ v', (replayDiscipline hash).Rely v₂ v' → claimOf v'.db r g = some row := by
    intro v' hr
    have hsame : claimOf v₂.db r g = claimOf v'.db r g := hr.same _ hlock
    exact hsame ▸ hrow₂
  simp only [Option.getD_some]
  -- a value that is no claim answers `published`
  split_ifs with hpublished
  · refine Protocol.ends_ret _ fun v' hr => ?_
    refine .alreadyPublished r g token row (hstill v' hr) ?_ (keepsClaims_nil (hr.writes.trans hw₂))
    rcases Bool.or_eq_true_iff.mp hpublished with h | h
    · exact not_claimed_of_published h
    · exact (Bool.not_eq_true' _).mp h
  have hclaim : isClaim row = true := by
    have h := (Bool.or_eq_false_iff.mp (Bool.eq_false_iff.mpr hpublished)).2
    exact (Bool.not_eq_false' _).mp h
  -- the update takes the row only where its lease has run out
  refine Protocol.ends_call _ hready₂ ?_
  intro v₃ hr₃ hready₃ _ _ _ taken ws ls x hexec _ _
  have hw₃ := hr₃.writes.trans hw₂
  obtain ⟨-, hexec⟩ := encoded_eq_done.mp hexec
  obtain ⟨-, ⟨rfl, rfl, rfl, -⟩ | ⟨rfl, rfl, rfl, -, old, hold, hcond⟩⟩ :=
    execChangeReplayClaim_done hexec
  · refine ⟨by simp, fun _ => Protocol.ends_ret _ fun v' hr => ?_⟩
    exact .inProgress r g token (keepsClaims_nil (hr.writes.trans (by simp [Engine.extend, hw₃])))
  · refine ⟨putIntake_covered _ _, fun _ => Protocol.ends_ret _ fun v' hr => ?_⟩
    replace hold : claimOf v₃.db r g = some old := by
      have hview : (engine hash).visible v₃ = v₃.db := visible_nil hw₃
      exact hview ▸ hold
    obtain rfl : row = old := Option.some.inj ((hstill v₃ hr₃).symm.trans hold)
    obtain ⟨hsame, hstarted, hput⟩ := put_of_rely hw₃ hr
    refine .takenOver r g token row (hsame.trans hold) hclaim ?_ ?_
    · rw [hstarted]
      exact of_decide_eq_true hcond
    · rw [hstarted]
      exact hput

/-- **One claim.** -/
theorem ensures_claim (rt : Runtime) (hready : (replayDiscipline hash).Ready v)
    (hw : v.writes = []) :
    (replayDiscipline hash).Ensures ok (.claim r g token)
      (fun state => ReplayPost ok hash (.claim r g token) (.claim state))
      (claimDlqReplay rt r g token) v := by
  unfold claimDlqReplay
  refine Protocol.ends_ofExcept _ fun claim_key hkey => ?_
  refine Protocol.ends_ofExcept _ fun claim_value hvalue => ?_
  obtain rfl := claimKey_eq hkey
  obtain rfl := claimValue_eq hvalue
  -- a persisted status ends the claim before the claim table is touched
  refine Protocol.ends_select _ hready ?_
  intro v₁ hr₁ hready₁ _ _ _ status ws ls x hexec _
  have hw₁ := hr₁.writes.trans hw
  obtain ⟨-, rfl, rfl, rfl⟩ := exec_selectRequestStatus hexec
  refine ⟨rfl, rfl, rfl, Protocol.ends_ofExcept _ fun status_payload _ => ?_⟩
  split_ifs with hpersisted
  · exact Protocol.ends_ret _ fun v' hr =>
      .persisted r g token (keepsClaims_nil (hr.writes.trans hw₁))
  -- `INSERT ... ON CONFLICT DO NOTHING`: a row that is there is looked at instead
  refine Protocol.ends_call _ hready₁ ?_
  intro v₂ hr₂ hready₂ _ _ _ inserted ws ls x hexec _ _
  have hw₂ := hr₂.writes.trans hw₁
  obtain ⟨hx, ⟨rfl, rfl, rfl, -⟩ | ⟨rfl, hnone, rfl, rfl, -⟩⟩ := exec_insertReplayClaim hexec
  · refine ⟨by simp, fun hready₃ => ?_⟩
    have hw₃ : (Engine.extend v₂ [] [] x).writes = [] := by simp [Engine.extend, hw₂]
    generalize Engine.extend v₂ [] [] x = v₃ at hready₃ hw₃ ⊢
    exact ensures_claimExisting hready₃ hw₃
  · refine ⟨putIntake_covered _ _, fun _ => Protocol.ends_ret _ fun v' hr => ?_⟩
    replace hnone : claimOf v₂.db r g = none := by
      have hview : (engine hash).visible v₂ = v₂.db := visible_nil hw₂
      exact hview ▸ hnone
    obtain ⟨hsame, hstarted, hput⟩ := put_of_rely hw₂ hr
    refine .inserted r g token (hsame.trans hnone) ?_
    rw [hstarted]
    exact hput

/-- **One mark.** -/
theorem ensures_mark (hready : (replayDiscipline hash).Ready v) (hw : v.writes = []) :
    (replayDiscipline hash).Ensures ok (.mark r g token)
      (fun updated => ReplayPost ok hash (.mark r g token) (.marked updated))
      (markDlqReplayPublished r g token) v := by
  unfold markDlqReplayPublished
  refine Protocol.ends_ofExcept _ fun claim_key hkey => ?_
  refine Protocol.ends_ofExcept _ fun claim_value hvalue => ?_
  obtain rfl := claimKey_eq hkey
  obtain rfl := claimValue_eq hvalue
  refine Protocol.ends_op _ hready ?_
  intro v₁ hr₁ hready₁ _ _ _ updated ws ls x hexec _ _
  have hw₁ := hr₁.writes.trans hw
  obtain ⟨-, hexec⟩ := encoded_eq_done.mp hexec
  obtain ⟨-, ⟨rfl, rfl, rfl, -⟩ | ⟨rfl, rfl, rfl, -, old, hold, hcond⟩⟩ :=
    execChangeReplayClaim_done hexec
  · refine ⟨by simp, fun _ => Protocol.ends_ret _ fun v' hr => ?_⟩
    exact .notMarked r g token (keepsClaims_nil (hr.writes.trans (by simp [Engine.extend, hw₁])))
  · refine ⟨putIntake_covered _ _, fun _ => Protocol.ends_ret _ fun v' hr => ?_⟩
    replace hold : claimOf v₁.db r g = some old := by
      have hview : (engine hash).visible v₁ = v₁.db := visible_nil hw₁
      exact hview ▸ hold
    obtain ⟨hsame, hstarted, hput⟩ := put_of_rely hw₁ hr
    refine .marked r g token old (hsame.trans hold) (of_decide_eq_true hcond) ?_
    rw [hstarted]
    exact hput

/-- **One release.** -/
theorem ensures_release (hready : (replayDiscipline hash).Ready v) (hw : v.writes = []) :
    (replayDiscipline hash).Ensures ok (.release r g token)
      (fun _ => ReplayPost ok hash (.release r g token) .done)
      (releaseDlqReplayClaim r g token) v := by
  unfold releaseDlqReplayClaim
  refine Protocol.ends_ofExcept _ fun claim_key hkey => ?_
  refine Protocol.ends_ofExcept _ fun claim_value hvalue => ?_
  obtain rfl := claimKey_eq hkey
  obtain rfl := claimValue_eq hvalue
  refine Protocol.ends_op _ hready ?_
  intro v₁ hr₁ hready₁ _ _ _ u ws ls x hexec _ _
  have hw₁ := hr₁.writes.trans hw
  obtain ⟨-, hexec⟩ := encoded_eq_done.mp hexec
  obtain ⟨-, ⟨-, rfl, rfl, -⟩ | ⟨-, rfl, rfl, -, old, hold, hcond⟩⟩ :=
    execChangeReplayClaim_done hexec
  · refine ⟨by simp, fun _ => Protocol.ends_ret _ fun v' hr => ?_⟩
    exact .notReleased r g token (keepsClaims_nil (hr.writes.trans (by simp [Engine.extend, hw₁])))
  · refine ⟨putIntake_covered _ _, fun _ => Protocol.ends_ret _ fun v' hr => ?_⟩
    replace hold : claimOf v₁.db r g = some old := by
      have hview : (engine hash).visible v₁ = v₁.db := visible_nil hw₁
      exact hview ▸ hold
    obtain ⟨hsame, -, hput⟩ := put_of_rely hw₁ hr
    exact .released r g token old (hsame.trans hold) (of_decide_eq_true hcond) hput

/-- A status write leaves the claims alone. -/
theorem ensures_storeStatus {payload : Dict} (hready : (replayDiscipline hash).Ready v)
    (hw : v.writes = []) :
    (replayDiscipline hash).Ensures ok (.storeStatus r payload)
      (fun _ => ReplayPost ok hash (.storeStatus r payload) .done)
      (storeRequestStatus r payload) v := by
  unfold storeRequestStatus upsertRequestStatus
  refine Protocol.ends_ofExcept _ fun normalised _ => ?_
  refine Protocol.ends_call _ hready ?_
  intro v₁ hr₁ hready₁ _ _ _ stored ws ls x hexec _ _
  have hw₁ := hr₁.writes.trans hw
  obtain ⟨rfl, -, -, -, ⟨rfl, rfl, -⟩ | ⟨rfl, rfl, -⟩⟩ := exec_upsertRequestStatus hexec
  · refine ⟨?_, fun _ => Protocol.ends_ret _ fun v' hr => .statusStored r payload ?_⟩
    · simp [replayDiscipline, discipline, Write.keys]
    · rw [hr.writes]
      simp only [Engine.extend, hw₁, List.nil_append]
      rfl
  · exact ⟨by simp, fun _ => Protocol.ends_throw _⟩

end Spec

/-! ### Every interleaving -/

section Runs

variable {rt : Runtime} {hash : PyStr → Int} {ok : ReplayEvent → Prop}
variable {db : Tables} {x : Ext} {h : List ReplayTransition} {s s' : ReplaySystem}

theorem ensures_replayProgram (task : ReplayTask) (t : Tables) (x : Ext) (now : Nat) :
    (replayDiscipline hash).Ensures ok task (ReplayPost ok hash task) (replayProgram rt task)
      (Engine.begin t x now) := by
  have hready : (replayDiscipline hash).Ready (Engine.begin t x now) :=
    ⟨trivial, (replayDiscipline hash).covered_begin t x now⟩
  cases task with
  | claim r g token => exact Prog.Sat.map (ensures_claim rt hready rfl)
  | mark r g token => exact Prog.Sat.map (ensures_mark hready rfl)
  | release r g token => exact Prog.Sat.map (ensures_release hready rfl)
  | storeStatus r payload => exact Prog.Sat.map (ensures_storeStatus hready rfl)

theorem replayRun_good (hrun : ReplayRun rt hash (.start db x) h s) (hok : ∀ t ∈ h, ok t.event) :
    (replayDiscipline hash).Good ok (ReplayPost ok hash) (fun _ _ _ => True) s :=
  Protocol.reachable (fun _ _ _ _ _ => ⟨trivial, trivial⟩)
    (fun task t x now _ => ensures_replayProgram task t x now) trivial hrun hok

/-- **What a step of a run does to the claim rows.** -/
theorem replayRun_effect (ok : ReplayEvent → Prop) (hrun : ReplayRun rt hash (.start db x) h s)
    (hok : ∀ t ∈ h, ok t.event) {e : ReplayEvent}
    (hstep : Step (engine hash) (replayProgram rt) s e s') :
    (∃ task a now, e = .committed task a ∧ now ≤ s.clock ∧ CallEffect ok now s.db s'.db task a) ∨
      ((∀ task a, e ≠ .committed task a) ∧ s'.db = s.db) := by
  by_cases he : ∃ task a, e = .committed task a
  · obtain ⟨task, a, rfl⟩ := he
    obtain ⟨i, t, ht, hpost, hdb, -⟩ := (replayRun_good hrun hok).commit_thread hstep
    refine Or.inl ⟨task, a, t.startedAt, rfl, hrun.startedAt_le ht, ?_⟩
    rw [hdb]
    exact hpost
  · have hne : ∀ task a, e ≠ .committed task a := fun task a heq => he ⟨task, a, heq⟩
    exact Or.inr ⟨hne, Protocol.step_db hstep hne⟩

/-! ### A small system -/

/-- Nothing is claimed. -/
def sampleClaims : Sim Stmt Stmt.Res PyExc ReplayAnswer ReplayTask Tables Ext Write Lock :=
  .start (.empty (fun _ => false) (fun _ => false) fun _ _ => false) ⟨1, []⟩

/-- The next `n` statements of transaction `i`. -/
def statements (i n : Nat) : List (Action ReplayTask Choice) :=
  List.replicate n (.stmt i ⟨true, none⟩)

/-- A script that plays from the small system is a run of the calls. -/
theorem replaySampleRun {script : List (Action ReplayTask Choice)}
    {p : List ReplayEvent ×
      Sim Stmt Stmt.Res PyExc ReplayAnswer ReplayTask Tables Ext Write Lock}
    (hplay : play (engine hash) (replayProgram .sample) script sampleClaims = some p) :
    ∃ h, ReplayRun .sample hash
      (.start (.empty (fun _ => false) (fun _ => false) fun _ _ => false) ⟨1, []⟩) h
      p.2.toSystem ∧ h.map (·.event) = p.1 :=
  play_run hplay

end Runs

end EventPipeline.Portfolio
