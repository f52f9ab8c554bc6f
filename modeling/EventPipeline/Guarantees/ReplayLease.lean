import EventPipeline.Portfolio.ReplayClaims

/-!
# EventPipeline.Guarantees.ReplayLease

The lease on the replay of a DLQ record. A row records one owner, by a token. The
owner keeps it until it releases it, until it is older than the lease and somebody
takes it over, or until it marks the replay as published, which is final. An owner
that has lost its row cannot change anything.
-/

namespace EventPipeline.Guarantees

open EventPipeline.Python EventPipeline.Portfolio EventPipeline.Postgres
open EventPipeline.Concurrency

variable {rt : Runtime} {hash : PyStr → Int}

/-- The row of the request and the generation records the owner. -/
def Recorded (t : Tables) (r : PyStr) (g : Nat) (token : PyStr) : Prop :=
  ∃ row, claimOf t r g = some row ∧ row.request_id = claimedValue r token

/-- A claim on the request and the generation is granted. -/
def Grants (r : PyStr) (g : Nat) (t : ReplayTransition) : Prop :=
  ∃ token, t.event = .committed (.claim r g token) (.claim .claimed)

/-- A mark of the request and the generation succeeds. -/
def Marks (r : PyStr) (g : Nat) (t : ReplayTransition) : Prop :=
  ∃ token, t.event = .committed (.mark r g token) (.marked true)

/-- The recorded owner releases the claim. -/
def Releases (r : PyStr) (g : Nat) (t : ReplayTransition) : Prop :=
  ∃ token, t.event = .committed (.release r g token) .done ∧ Recorded t.before.db r g token ∧
    claimOf t.after.db r g = none

/-- The claim in the row is older than the lease. -/
def Expired (r : PyStr) (g : Nat) (s : ReplaySystem) : Prop :=
  ∃ old, claimOf s.db r g = some old ∧ isClaim old = true ∧
    old.created_at + claimLeaseMicros < s.clock

/-- The rules of the lease, over a run. -/
structure LeaseRules (h : List ReplayTransition) : Prop where
  /-- A row belongs to one request and one generation. -/
  key : ∀ r g r' g' key, dlqReplayClaimKey r g = .ok key → dlqReplayClaimKey r' g' = .ok key →
    r = r' ∧ g = g'
  /-- A row records at most one owner. -/
  owner : ∀ t ∈ h, ∀ r g token token', Recorded t.after.db r g token →
    Recorded t.after.db r g token' → token = token'
  /-- An owner that is not recorded cannot mark. -/
  staleMark : ∀ t ∈ h, ∀ r g token a, t.event = .committed (.mark r g token) a →
    ¬Recorded t.before.db r g token → a = .marked false ∧ KeepsClaims t.before.db t.after.db
  /-- An owner that is not recorded cannot release. -/
  staleRelease : ∀ t ∈ h, ∀ r g token a, t.event = .committed (.release r g token) a →
    ¬Recorded t.before.db r g token → KeepsClaims t.before.db t.after.db
  /-- A second claim waits for a release or for the end of the lease. -/
  second : ∀ pre t₁ mid t₂, pre ++ [t₁] ++ mid ++ [t₂] <+: h → ∀ r g, Grants r g t₁ →
    Grants r g t₂ → (∃ u ∈ mid, Releases r g u) ∨ Expired r g t₂.before
  /-- A mark is final. -/
  final : ∀ pre t₁ mid t₂, pre ++ [t₁] ++ mid ++ [t₂] <+: h → ∀ r g, Marks r g t₁ →
    ¬Grants r g t₂

theorem recorded_unique {t : Tables} {r token token' : PyStr} {g : Nat}
    (h : Recorded t r g token) (h' : Recorded t r g token') : token = token' := by
  obtain ⟨row, hrow, hvalue⟩ := h
  obtain ⟨row', hrow', hvalue'⟩ := h'
  obtain rfl : row = row' := Option.some.inj (hrow.symm.trans hrow')
  exact claimedValue_inj (hvalue.symm.trans hvalue')

theorem claimOf_of_keeps {t t' : Tables} (h : KeepsClaims t t') (r : PyStr) (g : Nat) :
    claimOf t' r g = claimOf t r g := by
  rw [claimOf, h, claimOf]

theorem isClaim_of_value {row : IntakeRow} {r token : PyStr}
    (h : row.request_id = claimedValue r token) : isClaim row = true := by
  rw [isClaim, h]
  exact claimedValue_claimed r token

section Effect

variable {ok : ReplayEvent → Prop} {now : Nat} {t t' : Tables} {task : ReplayTask}
variable {a : ReplayAnswer}

/-- A grant finds no row or an expired one. -/
theorem granted_effect {r token : PyStr} {g : Nat}
    (h : CallEffect ok now t t' (.claim r g token) (.claim .claimed)) :
    (∃ row, claimOf t' r g = some row) ∧ (claimOf t r g = none ∨ ∃ old, claimOf t r g = some old ∧
      isClaim old = true ∧ old.created_at + claimLeaseMicros < now) := by
  cases h with
  | inserted _ _ _ hnone hputs => exact ⟨⟨_, claimOf_of_puts_self hputs⟩, Or.inl hnone⟩
  | takenOver _ _ _ old hold hclaim hexpired hputs =>
      exact ⟨⟨_, claimOf_of_puts_self hputs⟩, Or.inr ⟨old, hold, hclaim, hexpired⟩⟩

/-- A row stays until its owner releases it. Of the effects of a call, a release with the recorded
token is the only one that takes a row away. -/
theorem row_effect {r : PyStr} {g : Nat} (h : CallEffect ok now t t' task a)
    (hrow : ∃ row, claimOf t r g = some row) :
    (∃ token, task = .release r g token ∧ a = .done ∧ Recorded t r g token ∧
      claimOf t' r g = none) ∨ ∃ row, claimOf t' r g = some row := by
  cases h with
  | inserted r' g' token hnone hputs | takenOver r' g' token old hold hclaim hexpired hputs
  | marked r' g' token old hold hvalue hputs =>
      refine Or.inr ?_
      rw [claimOf_of_puts hputs]
      split_ifs
      · exact ⟨_, rfl⟩
      · exact hrow
  | released r' g' token old hold hvalue hputs =>
      by_cases hsame : r = r' ∧ g = g'
      · obtain ⟨rfl, rfl⟩ := hsame
        exact Or.inl ⟨token, rfl, rfl, ⟨old, hold, hvalue⟩, by simp [claimOf_of_puts hputs]⟩
      · rw [claimOf_of_puts hputs, if_neg hsame]
        exact Or.inr hrow
  | alreadyPublished _ _ _ _ _ _ hkeeps | vanished _ _ _ _ hkeeps | persisted _ _ _ hkeeps
  | inProgress _ _ _ hkeeps | notMarked _ _ _ hkeeps | notReleased _ _ _ hkeeps
  | statusStored _ _ hkeeps =>
      exact Or.inr (by rwa [claimOf_of_keeps hkeeps])

/-- A row that is no claim stays: to take over, to mark and to release all ask for a claim. -/
theorem final_effect {r : PyStr} {g : Nat} (h : CallEffect ok now t t' task a)
    (hrow : ∃ row, claimOf t r g = some row ∧ isClaim row = false) :
    ∃ row, claimOf t' r g = some row ∧ isClaim row = false := by
  obtain ⟨row, hrow, hfinal⟩ := hrow
  cases h with
  | inserted r' g' token hnone hputs =>
      rw [claimOf_of_puts hputs, if_neg]
      · exact ⟨row, hrow, hfinal⟩
      · rintro ⟨rfl, rfl⟩
        simp [hnone] at hrow
  | takenOver r' g' token old hold hclaim hexpired hputs =>
      rw [claimOf_of_puts hputs, if_neg]
      · exact ⟨row, hrow, hfinal⟩
      · rintro ⟨rfl, rfl⟩
        obtain rfl : row = old := Option.some.inj (hrow.symm.trans hold)
        simp [hfinal] at hclaim
  | marked r' g' token old hold hvalue hputs | released r' g' token old hold hvalue hputs =>
      rw [claimOf_of_puts hputs, if_neg]
      · exact ⟨row, hrow, hfinal⟩
      · rintro ⟨rfl, rfl⟩
        obtain rfl : row = old := Option.some.inj (hrow.symm.trans hold)
        simp [isClaim_of_value hvalue] at hfinal
  | alreadyPublished _ _ _ _ _ _ hkeeps | vanished _ _ _ _ hkeeps | persisted _ _ _ hkeeps
  | inProgress _ _ _ hkeeps | notMarked _ _ _ hkeeps | notReleased _ _ _ hkeeps
  | statusStored _ _ hkeeps =>
      exact ⟨row, by rwa [claimOf_of_keeps hkeeps], hfinal⟩

end Effect

section Runs

variable {db : Tables} {x : Ext} {h : List ReplayTransition} {s s' : ReplaySystem}

/-- The effect of a commit, with nothing asked of the run. -/
theorem commit_effect (hrun : ReplayRun rt hash (.start db x) h s) {task : ReplayTask}
    {a : ReplayAnswer}
    (hstep : Step (engine hash) (replayProgram rt) s (.committed task a) s') :
    ∃ now ≤ s.clock, CallEffect (fun _ => True) now s.db s'.db task a := by
  rcases replayRun_effect (fun _ => True) hrun (fun _ _ => trivial) hstep with
    ⟨task', a', now, heq, hle, heffect⟩ | ⟨hne, -⟩
  · obtain ⟨rfl, rfl⟩ := Event.committed.inj heq
    exact ⟨now, hle, heffect⟩
  · exact absurd rfl (hne task a)

/-- What a commit keeps, a step keeps, because every other step leaves the rows of the claims
alone. -/
theorem step_keeps (stops : ReplayTransition → Prop) (Holds : Tables → Prop)
    (hcommit : ∀ task a now s s', CallEffect (fun _ => True) now s.db s'.db task a → Holds s.db →
      stops ⟨s, .committed task a, s'⟩ ∨ Holds s'.db)
    (hrun : ReplayRun rt hash (.start db x) h s) {e : ReplayEvent}
    (hstep : Step (engine hash) (replayProgram rt) s e s') (hs : Holds s.db) :
    stops ⟨s, e, s'⟩ ∨ Holds s'.db := by
  rcases replayRun_effect (fun _ => True) hrun (fun _ _ => trivial) hstep with
    ⟨task, a, now, rfl, -, heffect⟩ | ⟨-, hsame⟩
  · exact hcommit task a now s s' heffect hs
  · exact Or.inr (hsame ▸ hs)

/-- After a grant there is a row until a release. -/
theorem row_since_grant {r : PyStr} {g : Nat} {pre mid : List ReplayTransition}
    {t : ReplayTransition} (hrun : ReplayRun rt hash (.start db x) h s)
    (hsplit : h = pre ++ [t] ++ mid) (ht : Grants r g t) :
    (∃ u ∈ mid, Releases r g u) ∨ ∃ row, claimOf s.db r g = some row := by
  refine hrun.since (Grants r g) (Releases r g) (fun s => ∃ row, claimOf s.db r g = some row)
    ?_ ?_ hsplit ht
  · rintro h s e s' hrun hstep ⟨token, rfl⟩
    obtain ⟨now, -, heffect⟩ := commit_effect hrun hstep
    exact (granted_effect heffect).1
  · intro h s e s' hrun hstep
    refine step_keeps (Releases r g) (fun t => ∃ row, claimOf t r g = some row) ?_ hrun hstep
    intro task a now s s' heffect hrow
    refine (row_effect heffect hrow).imp ?_ id
    rintro ⟨token, rfl, rfl, hrecorded, hnone⟩
    exact ⟨token, rfl, hrecorded, hnone⟩

/-- After a mark the row is no claim. The mark writes a value that is none, and from then on the
row stays one (`final_effect`). -/
theorem final_since_mark {r : PyStr} {g : Nat} {pre mid : List ReplayTransition}
    {t : ReplayTransition} (hrun : ReplayRun rt hash (.start db x) h s)
    (hsplit : h = pre ++ [t] ++ mid) (ht : Marks r g t) :
    ∃ row, claimOf s.db r g = some row ∧ isClaim row = false := by
  have hsince : (∃ u ∈ mid, False) ∨
      ∃ row, claimOf s.db r g = some row ∧ isClaim row = false := by
    refine hrun.since (Marks r g) (fun _ => False)
      (fun s => ∃ row, claimOf s.db r g = some row ∧ isClaim row = false) ?_ ?_ hsplit ht
    · rintro h s e s' hrun hstep ⟨token, rfl⟩
      obtain ⟨now, -, heffect⟩ := commit_effect hrun hstep
      cases heffect with
      | marked _ _ _ old hold hvalue hputs =>
          exact ⟨_, claimOf_of_puts_self hputs, publishedValue_not_claimed r⟩
    · intro h s e s' hrun hstep
      exact step_keeps (fun _ => False)
        (fun t => ∃ row, claimOf t r g = some row ∧ isClaim row = false)
        (fun task a now s s' heffect hrow => Or.inr (final_effect heffect hrow)) hrun hstep
  simpa using hsince

/-- **The lease.** Whatever the calls do among each other, from any tables.

Each rule is about commits, and `commit_effect` says what a commit of a call does to the row of
its claim. The two rules that look back follow the row from a commit to a later one: it stays
there after a grant (`row_since_grant`), and it stays marked after a mark (`final_since_mark`). -/
theorem replayLease_rules (hrun : ReplayRun rt hash (.start db x) h s) : LeaseRules h where
  key r g r' g' key hkey hkey' :=
    claimRow_inj (Prod.ext rfl ((claimKey_eq hkey).symm.trans (claimKey_eq hkey')))
  owner t ht r g token token' := recorded_unique
  -- a stale owner finds no row with its token, so that its statement keeps the tables
  staleMark t ht r g token a hevent hstale := by
    obtain ⟨h', -, hrun', hstep⟩ := hrun.of_mem ht
    rw [hevent] at hstep
    obtain ⟨now, -, heffect⟩ := commit_effect hrun' hstep
    cases heffect with
    | marked _ _ _ old hold hvalue hputs => exact absurd ⟨old, hold, hvalue⟩ hstale
    | notMarked _ _ _ hkeeps => exact ⟨rfl, hkeeps⟩
  staleRelease t ht r g token a hevent hstale := by
    obtain ⟨h', -, hrun', hstep⟩ := hrun.of_mem ht
    rw [hevent] at hstep
    obtain ⟨now, -, heffect⟩ := commit_effect hrun' hstep
    cases heffect with
    | released _ _ _ old hold hvalue hputs => exact absurd ⟨old, hold, hvalue⟩ hstale
    | notReleased _ _ _ hkeeps => exact hkeeps
  -- a second grant needs the row to be gone, or its lease to have run out
  second pre t₁ mid t₂ hpre r g hfirst hsecond := by
    obtain ⟨token, hevent⟩ := hsecond
    obtain ⟨hrun', hstep⟩ := hrun.of_prefix hpre
    rw [hevent] at hstep
    obtain ⟨now, hle, heffect⟩ := commit_effect hrun' hstep
    rcases (granted_effect heffect).2 with hnone | ⟨old, hold, hclaim, hexpired⟩
    · refine (row_since_grant hrun' rfl hfirst).imp id ?_
      rintro ⟨row, hrow⟩
      simp [hnone] at hrow
    · exact Or.inr ⟨old, hold, hclaim, hexpired.trans_le hle⟩
  -- a marked row is never expired, and nothing takes the mark away
  final pre t₁ mid t₂ hpre r g hmark := by
    rintro ⟨token, hevent⟩
    obtain ⟨hrun', hstep⟩ := hrun.of_prefix hpre
    rw [hevent] at hstep
    obtain ⟨now, -, heffect⟩ := commit_effect hrun' hstep
    obtain ⟨row, hrow, hfinal⟩ := final_since_mark hrun' rfl hmark
    rcases (granted_effect heffect).2 with hnone | ⟨old, hold, hclaim, -⟩
    · simp [hnone] at hrow
    · obtain rfl : row = old := Option.some.inj (hrow.symm.trans hold)
      simp [hfinal] at hclaim

end Runs

/-- What the calls of a run answer, in order. -/
def answered : ReplayEvent → Option ReplayAnswer
  | .committed _ a => some a
  | _ => none

/-- One owner claims; another one takes the claim over after the lease, and the first
can no longer mark it; the second marks it, and a third claim comes too late. -/
def sampleTakeover : List (Action ReplayTask Choice) :=
  [.begin 0 (.claim "r1" 0 "a")] ++ statements 0 2 ++ [.commit 0, .tick 30000001]
    ++ [.begin 1 (.claim "r1" 0 "b")] ++ statements 1 4 ++ [.commit 1]
    ++ [.begin 0 (.mark "r1" 0 "a")] ++ statements 0 1 ++ [.commit 0]
    ++ [.begin 1 (.mark "r1" 0 "b")] ++ statements 1 1 ++ [.commit 1]
    ++ [.begin 2 (.claim "r1" 0 "c")] ++ statements 2 3 ++ [.commit 2]

theorem replayLease_rules_sample :
    ∃ h : List ReplayTransition, (h.filterMap fun t => answered t.event) =
        [.claim .claimed, .claim .claimed, .marked false, .marked true, .claim .published] ∧
      LeaseRules h := by
  have hplay : ((play (engine fun _ => 0) (replayProgram .sample) sampleTakeover sampleClaims).map
      fun p => p.1.filterMap answered) =
        some [.claim .claimed, .claim .claimed, .marked false, .marked true, .claim .published] := by
    decide +kernel
  obtain ⟨p, hp, hanswers⟩ := Option.map_eq_some_iff.mp hplay
  obtain ⟨h, hrun, hevents⟩ := replaySampleRun hp
  refine ⟨h, ?_, replayLease_rules hrun⟩
  rw [← hanswers, ← hevents, List.filterMap_map]
  rfl

end EventPipeline.Guarantees
