import EventPipeline.Portfolio.ReplayClaims

/-!
# EventPipeline.Guarantees.ReplayClaims

A claim that cannot insert its row looks at the row it met, in a second statement.
Between the two the owner of that row may release it; the claim then finds no row
and answers `published` for a replay nobody has published.
`replayClaims_published` is the guarantee for runs in which the row is still there,
`replayClaims_lost` a run in which it is not.
-/

namespace EventPipeline.Guarantees

open EventPipeline.Python EventPipeline.Portfolio EventPipeline.Postgres
open EventPipeline.Concurrency

variable {rt : Runtime} {hash : PyStr → Int}

/-- A claim that could not insert its row does not find the row it met. -/
def ClaimVanishes : ReplayEvent → Prop
  | .ran (.claim _ _ _) (.selectReplayClaimForUpdate _ _) none => True
  | _ => False

instance : DecidablePred ClaimVanishes := fun e => by
  unfold ClaimVanishes
  split <;> infer_instance

/-- The request and the generation of a claim that answers `published`. -/
def publishedClaim? : ReplayEvent → Option (PyStr × Nat)
  | .committed (.claim r g _) (.claim .published) => some (r, g)
  | _ => none

/-- The request and the generation of a mark that succeeds. -/
def successfulMark? : ReplayEvent → Option (PyStr × Nat)
  | .committed (.mark r g _) (.marked true) => some (r, g)
  | _ => none

/-- Some owner has marked the replay as published. -/
def MarkedIn (h : List ReplayTransition) (r : PyStr) (g : Nat) : Prop :=
  ∃ t ∈ h, successfulMark? t.event = some (r, g)

/-- Every claim that answers `published` comes after a mark. -/
def PublishedOnlyAfterMark (h : List ReplayTransition) : Prop :=
  ∀ h' t, h' ++ [t] <+: h → ∀ r g, publishedClaim? t.event = some (r, g) → MarkedIn h' r g

/-- Every row is a claim in progress or the trace of a mark. -/
def Backed (h : List ReplayTransition) (t : Tables) : Prop :=
  ∀ r g row, claimOf t r g = some row → isClaim row = true ∨ MarkedIn h r g

theorem MarkedIn.append {h : List ReplayTransition} {r : PyStr} {g : Nat} (hm : MarkedIn h r g)
    (h' : List ReplayTransition) : MarkedIn (h ++ h') r g := by
  obtain ⟨t, ht, hevent⟩ := hm
  exact ⟨t, List.mem_append_left _ ht, hevent⟩

theorem Backed.of_keeps {h : List ReplayTransition} {t t' : Tables} (hb : Backed h t)
    (hkeeps : KeepsClaims t t') (h' : List ReplayTransition) : Backed (h ++ h') t' := by
  intro r g row hrow
  rw [claimOf, hkeeps] at hrow
  exact (hb r g row hrow).imp id fun hm => hm.append h'

theorem Backed.of_puts {h : List ReplayTransition} {t t' : Tables} {r : PyStr} {g : Nat}
    {new : Option IntakeRow} (hb : Backed h t) (hputs : PutsClaim t t' r g new)
    {h' : List ReplayTransition}
    (hnew : ∀ row, new = some row → isClaim row = true ∨ MarkedIn (h ++ h') r g) :
    Backed (h ++ h') t' := by
  intro r' g' row hrow
  rw [claimOf_of_puts hputs] at hrow
  split_ifs at hrow with hsame
  · obtain ⟨rfl, rfl⟩ := hsame
    exact hnew row hrow
  · exact (hb r' g' row hrow).imp id fun hm => hm.append h'

/-- One call keeps the rows backed, and a claim that answers `published` without
having lost its row saw a marked one. -/
theorem backed_effect {h : List ReplayTransition} {t : ReplayTransition} {task : ReplayTask}
    {a : ReplayAnswer} {now : Nat} (hb : Backed h t.before.db)
    (hevent : t.event = .committed task a)
    (heffect : CallEffect (fun e => ¬ClaimVanishes e) now t.before.db t.after.db task a) :
    Backed (h ++ [t]) t.after.db ∧
      ∀ r g, publishedClaim? t.event = some (r, g) → MarkedIn h r g := by
  cases heffect with
  | inserted r g token hnone hputs | takenOver r g token old hold hclaim hexpired hputs =>
      refine ⟨hb.of_puts hputs fun row hrow => ?_, by simp [hevent, publishedClaim?]⟩
      obtain rfl := Option.some.inj hrow
      exact Or.inl (claimedValue_claimed r token)
  | alreadyPublished r g token old hold hclaim hkeeps =>
      refine ⟨hb.of_keeps hkeeps _, fun r' g' heq => ?_⟩
      simp only [hevent, publishedClaim?, Option.some.injEq, Prod.mk.injEq] at heq
      obtain ⟨rfl, rfl⟩ := heq
      exact (hb r g old hold).resolve_left (by simp [hclaim])
  | vanished r g token hok hkeeps => exact absurd trivial hok
  | marked r g token old hold hvalue hputs =>
      refine ⟨hb.of_puts hputs fun row _ => Or.inr ?_, by simp [hevent, publishedClaim?]⟩
      exact ⟨t, by simp, by simp [hevent, successfulMark?]⟩
  | released r g token old hold hvalue hputs =>
      exact ⟨hb.of_puts hputs (by simp), by simp [hevent, publishedClaim?]⟩
  | persisted | inProgress | notMarked | notReleased | statusStored =>
      rename_i hkeeps
      exact ⟨hb.of_keeps hkeeps _, by simp [hevent, publishedClaim?]⟩

theorem backed_run {db : Tables} {x : Ext} {h : List ReplayTransition} {s : ReplaySystem}
    (hempty : db.intake_idempotency_keys = fun _ => none)
    (hrun : ReplayRun rt hash (.start db x) h s) (hvanish : ∀ t ∈ h, ¬ClaimVanishes t.event) :
    Backed h s.db ∧ PublishedOnlyAfterMark h := by
  induction hrun with
  | nil =>
      refine ⟨fun r g row hrow => ?_, fun h' t hpre => ?_⟩
      · rw [claimOf, System.start, hempty] at hrow
        simp at hrow
      · simp [List.prefix_nil] at hpre
  | @snoc h s e s' hrun hstep ih =>
      have hbefore := fun t ht => hvanish t (List.mem_append_left _ ht)
      obtain ⟨hb, hafter⟩ := ih hbefore
      have hlast : Backed (h ++ [⟨s, e, s'⟩]) s'.db ∧
          ∀ r g, publishedClaim? e = some (r, g) → MarkedIn h r g := by
        rcases replayRun_effect (fun e => ¬ClaimVanishes e) hrun hbefore hstep with
          ⟨task, a, now, rfl, -, heffect⟩ | ⟨hne, hsame⟩
        · exact backed_effect (t := ⟨s, .committed task a, s'⟩) hb rfl heffect
        · refine ⟨hb.of_keeps (by rw [KeepsClaims, hsame]) _, fun r g heq => ?_⟩
          unfold publishedClaim? at heq
          split at heq
          · exact absurd rfl (hne _ _)
          · simp at heq
      refine ⟨hlast.1, fun h' t hpre r g heq => ?_⟩
      rcases List.prefix_concat_iff.mp hpre with hwhole | hpre
      · obtain ⟨rfl, htail⟩ := List.append_inj' hwhole rfl
        obtain rfl := List.singleton_inj.mp htail
        exact hlast.2 r g heq
      · exact hafter h' t hpre r g heq

/-- **No replay is lost** where no claim loses the row it met: a claim that answers
`published` comes after a mark of the same request and generation.

By induction over the run every published row is backed by a mark before it (`backed_run`). An
answer `published` was read off such a row, or off a row that vanished, which is excluded. -/
theorem replayClaims_published {db : Tables} {x : Ext} {h : List ReplayTransition}
    {s : ReplaySystem} (hempty : db.intake_idempotency_keys = fun _ => none)
    (hrun : ReplayRun rt hash (.start db x) h s) (hvanish : ∀ t ∈ h, ¬ClaimVanishes t.event) :
    PublishedOnlyAfterMark h :=
  (backed_run hempty hrun hvanish).2

/-! ### A replay that is lost

A schedule in which the row is released between the two statements of another claim. -/

/-- One owner claims and marks; another one then claims. -/
def sampleMarked : List (Action ReplayTask Choice) :=
  [.begin 0 (.claim "r1" 0 "a")] ++ statements 0 2 ++ [.commit 0, .begin 0 (.mark "r1" 0 "a")]
    ++ statements 0 1 ++ [.commit 0, .begin 0 (.claim "r1" 0 "b")] ++ statements 0 3 ++ [.commit 0]

theorem replayClaims_published_sample :
    ∃ h : List ReplayTransition,
      (h.filterMap fun t => publishedClaim? t.event) = [(PyStr.ofString "r1", 0)] ∧
      PublishedOnlyAfterMark h := by
  have hplay : ((play (engine fun _ => 0) (replayProgram .sample) sampleMarked sampleClaims).map
      fun p => (p.1.filterMap publishedClaim?, decide (∀ e ∈ p.1, ¬ClaimVanishes e)))
        = some ([(PyStr.ofString "r1", 0)], true) := by decide +kernel
  obtain ⟨p, hp, hstate⟩ := Option.map_eq_some_iff.mp hplay
  obtain ⟨hpublished, hvanish⟩ := Prod.mk.inj hstate
  obtain ⟨h, hrun, hevents⟩ := replaySampleRun hp
  refine ⟨h, ?_, replayClaims_published rfl hrun fun t ht => ?_⟩
  · rw [← hpublished, ← hevents, List.filterMap_map]
    rfl
  · exact of_decide_eq_true hvanish _ (hevents ▸ List.mem_map_of_mem ht)

/-- One owner has claimed; another one meets its row, and it releases the row before
the other looks at it. -/
def sampleReleased : List (Action ReplayTask Choice) :=
  [.begin 0 (.claim "r1" 0 "a")] ++ statements 0 2 ++ [.commit 0, .begin 1 (.claim "r1" 0 "b")]
    ++ statements 1 2 ++ [.begin 0 (.release "r1" 0 "a")] ++ statements 0 1 ++ [.commit 0]
    ++ statements 1 1 ++ [.commit 1]

theorem replayClaims_lost :
    ∃ (h : List ReplayTransition) (s : ReplaySystem),
      ReplayRun .sample (fun _ => 0)
        (.start (.empty (fun _ => false) (fun _ => false) fun _ _ => false) ⟨1, []⟩) h s ∧
      (h.filterMap fun t => publishedClaim? t.event) = [(PyStr.ofString "r1", 0)] ∧
      (h.filterMap fun t => successfulMark? t.event) = [] ∧ ¬PublishedOnlyAfterMark h := by
  have hplay : ((play (engine fun _ => 0) (replayProgram .sample) sampleReleased sampleClaims).map
      fun p => (p.1.filterMap publishedClaim?, p.1.filterMap successfulMark?,
        p.1.getLast?.bind publishedClaim?))
        = some ([(PyStr.ofString "r1", 0)], [], some (PyStr.ofString "r1", 0)) := by
    decide +kernel
  obtain ⟨p, hp, hstate⟩ := Option.map_eq_some_iff.mp hplay
  obtain ⟨hpublished, hmarks, hlast⟩ := Prod.mk.inj hstate |>.imp id Prod.mk.inj
  obtain ⟨h, hrun, hevents⟩ := replaySampleRun hp
  have hnone : (h.filterMap fun t => successfulMark? t.event) = [] := by
    rw [← hmarks, ← hevents, List.filterMap_map]
    rfl
  refine ⟨h, p.2.toSystem, hrun, ?_, hnone, fun hafter => ?_⟩
  · rw [← hpublished, ← hevents, List.filterMap_map]
    rfl
  · rw [← hevents, List.getLast?_map] at hlast
    cases hl : h.getLast? with
    | none => simp [hl] at hlast
    | some t =>
        obtain ⟨h', rfl⟩ := List.getLast?_eq_some_iff.mp hl
        obtain ⟨u, hu, hmark⟩ := hafter h' t (List.prefix_refl _) "r1" 0 (by simpa [hl] using hlast)
        have hnone := List.filterMap_eq_nil_iff.mp hnone u (List.mem_append_left _ hu)
        simp [hnone] at hmark

end EventPipeline.Guarantees
