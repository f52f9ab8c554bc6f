import EventPipeline.Guarantees.Offsets

/-!
# EventPipeline.Guarantees.Redelivery

How far back a consumer may go.

Failures and restarts make a batch loop take records up again, but never one behind a record
that is done: what comes next in a partition, now (`ToCome`) or after a restart (`Trails`), is
at or after every record taken up before. `Paced` is the invariant of the loop, for any set of
records that is done; it complements `Underway`, which says what has returned.
-/

namespace EventPipeline.Guarantees

open EventPipeline.Worker

variable {ν : Type} {log : Set (ConsumerRecord ν)} {g : Group ν} {failed : List TopicPartition}
  {message m : ConsumerRecord ν} {messages : List (ConsumerRecord ν)}
  {done : Set (ConsumerRecord ν)}

/-- A committed offset has passed the record. -/
def Covered (g : Group ν) (m : ConsumerRecord ν) : Prop :=
  ∃ n, g.committed m.topicPartition = some n ∧ m.offset < n

/-- What the loop may take up without a restart: the rest of its batch, and what the next polls
return. -/
def ToCome (log : Set (ConsumerRecord ν)) (failed : List TopicPartition)
    (messages : List (ConsumerRecord ν)) (g : Group ν) (m : ConsumerRecord ν) : Prop :=
  (m ∈ messages ∧ m.topicPartition ∉ failed) ∨
    (m ∈ log ∧ g.position m.topicPartition ≤ m.offset)

/-- What a restart may take up again is not behind a record that is done. -/
def Trails (log : Set (ConsumerRecord ν)) (done : Set (ConsumerRecord ν)) (g : Group ν) : Prop :=
  ∀ p ∈ done, ∀ m ∈ log, m.topicPartition = p.topicPartition → ¬ Covered g m →
    p.offset ≤ m.offset

/-- The pace of a loop: what is behind a position is committed or still to come, and what is
to come is behind nothing that is committed or done. -/
structure Paced (log : Set (ConsumerRecord ν)) (failed : List TopicPartition)
    (messages : List (ConsumerRecord ν)) (done : Set (ConsumerRecord ν)) (g : Group ν) :
    Prop where
  behind : ∀ m ∈ log, m.offset < g.position m.topicPartition →
    Covered g m ∨ (m ∈ messages ∧ m.topicPartition ∉ failed)
  covered : ∀ m ∈ log, Covered g m → ∀ next, ToCome log failed messages g next →
    next.topicPartition = m.topicPartition → m.offset ≤ next.offset
  follows : ∀ p ∈ done, ∀ next, ToCome log failed messages g next →
    next.topicPartition = p.topicPartition → p.offset ≤ next.offset
  trails : Trails log done g

/-- The pace is about offsets and positions only. -/
theorem Paced.of_same {g' : Group ν} (h : Paced log failed messages done g)
    (hcommitted : g'.committed = g.committed) (hposition : g'.position = g.position) :
    Paced log failed messages done g' := by
  obtain ⟨behind, covered, follows, trails⟩ := h
  simp only [Trails, ToCome, Covered] at behind covered follows trails
  refine ⟨?_, ?_, ?_, ?_⟩
  all_goals simpa only [Trails, ToCome, Covered, hcommitted, hposition]

/-! ### The next record

Within a partition the loop goes forward: the record it takes up next is the first of those to
come. -/

theorem ToCome.head (hopen : message.topicPartition ∉ failed) :
    ToCome log failed (message :: messages) g message :=
  Or.inl ⟨by simp, hopen⟩

theorem ToCome.of_tail (h : ToCome log failed messages g m) :
    ToCome log failed (message :: messages) g m :=
  h.imp_left (And.imp_left (List.mem_cons_of_mem _))

/-- The next record is the first of its partition that is to come. -/
theorem Underway.le_toCome (h : Underway log failed (message :: messages) g)
    (hopen : message.topicPartition ∉ failed) {next : ConsumerRecord ν}
    (hnext : ToCome log failed (message :: messages) g next)
    (hp : next.topicPartition = message.topicPartition) : message.offset ≤ next.offset := by
  rcases hnext with ⟨hmem, -⟩ | ⟨-, hposition⟩
  · rcases List.mem_cons.mp hmem with rfl | hlater
    · exact le_rfl
    · exact ((List.pairwise_cons.mp h.ordered).1 next hlater hp.symm).le
  · have hahead := h.ahead message (by simp) hopen
    rw [hp] at hposition
    omega

/-- Taking the next record up makes it done. It is the first of its partition that is still to
come, so no record below it is taken up later. -/
theorem Paced.insert (h : Paced log failed (message :: messages) done g)
    (hunderway : Underway log failed (message :: messages) g)
    (hopen : message.topicPartition ∉ failed) :
    Paced log failed (message :: messages) (insert message done) g where
  behind := h.behind
  covered := h.covered
  follows p hp next hnext hsame := by
    rcases hp with rfl | hp
    · exact hunderway.le_toCome hopen hnext hsame
    · exact h.follows p hp next hnext hsame
  trails p hp m hm hsame huncovered := by
    rcases hp with rfl | hp
    · -- what is not committed is still to come, in this batch or a later one
      refine hunderway.le_toCome hopen ?_ hsame
      by_cases hposition : g.position m.topicPartition ≤ m.offset
      · exact Or.inr ⟨hm, hposition⟩
      · exact Or.inl ((h.behind m hm (not_le.mp hposition)).resolve_left huncovered)
    · exact h.trails p hp m hm hsame huncovered

/-- A record whose partition has failed is passed over. -/
theorem Paced.skip (h : Paced log failed (message :: messages) done g)
    (hfailed : message.topicPartition ∈ failed) : Paced log failed messages done g where
  behind m hm hlt := by
    rcases h.behind m hm hlt with hcovered | ⟨hmem, hopen⟩
    · exact Or.inl hcovered
    · rcases List.mem_cons.mp hmem with rfl | hlater
      · exact absurd hfailed hopen
      · exact Or.inr ⟨hlater, hopen⟩
  covered m hm hcovered next hnext := h.covered m hm hcovered next hnext.of_tail
  follows p hp next hnext := h.follows p hp next hnext.of_tail
  trails := h.trails

/-- The loop goes on behind a record that is committed. -/
theorem Paced.next (h : Paced log failed (message :: messages) done g)
    (hcovered : Covered g message) : Paced log failed messages done g where
  behind m hm hlt := by
    rcases h.behind m hm hlt with hcovered' | ⟨hmem, hopen⟩
    · exact Or.inl hcovered'
    · rcases List.mem_cons.mp hmem with rfl | hlater
      · exact Or.inl hcovered
      · exact Or.inr ⟨hlater, hopen⟩
  covered m hm hcovered' next hnext := h.covered m hm hcovered' next hnext.of_tail
  follows p hp next hnext := h.follows p hp next hnext.of_tail
  trails := h.trails

/-! ### Commits and rewinds

A rewind goes back to the record that failed, and no further: what was done before it stays
behind. -/

/-- The group after the commit of a record. -/
def Group.committing (g : Group ν) (message : ConsumerRecord ν) : Group ν :=
  { g with committed :=
      Function.update g.committed message.topicPartition (some (message.offset + 1)) }

/-- The group after a rewind to a record. -/
def Group.rewound (g : Group ν) (message : ConsumerRecord ν) : Group ν :=
  { g with position := Function.update g.position message.topicPartition message.offset }

theorem covered_committing (hp : m.topicPartition = message.topicPartition) :
    Covered (g.committing message) m ↔ m.offset ≤ message.offset := by
  simp [Covered, Group.committing, hp]

theorem covered_committing_of_ne (hp : m.topicPartition ≠ message.topicPartition) :
    Covered (g.committing message) m ↔ Covered g m := by
  simp [Covered, Group.committing, hp]

/-- A commit of the next record does not go back behind an earlier one. -/
theorem Paced.commit (h : Paced log failed (message :: messages) done g)
    (hunderway : Underway log failed (message :: messages) g)
    (hopen : message.topicPartition ∉ failed) :
    Paced log failed (message :: messages) done (g.committing message) where
  behind m hm hlt := by
    refine (h.behind m hm hlt).imp_left fun hcovered => ?_
    by_cases hp : m.topicPartition = message.topicPartition
    · exact (covered_committing hp).mpr (h.covered m hm hcovered message (.head hopen) hp.symm)
    · exact (covered_committing_of_ne hp).mpr hcovered
  covered m hm hcovered next hnext hsame := by
    by_cases hp : m.topicPartition = message.topicPartition
    · have hle := (covered_committing hp).mp hcovered
      exact hle.trans (hunderway.le_toCome hopen hnext (hsame.trans hp))
    · exact h.covered m hm ((covered_committing_of_ne hp).mp hcovered) next hnext hsame
  follows := h.follows
  trails p hp m hm hsame huncovered := by
    by_cases heq : m.topicPartition = message.topicPartition
    · rw [covered_committing heq, not_le] at huncovered
      have hle := h.follows p hp message (.head hopen) (heq.symm.trans hsame)
      omega
    · rw [covered_committing_of_ne heq] at huncovered
      exact h.trails p hp m hm hsame huncovered

/-- A rewind to the record that failed. What comes after it is either that record and later ones
of its partition, or what would have come anyway in another partition. -/
theorem Paced.rewind (h : Paced log failed (message :: messages) done g)
    (hunderway : Underway log failed (message :: messages) g)
    (hopen : message.topicPartition ∉ failed) :
    Paced log (message.topicPartition :: failed) messages done (g.rewound message) := by
  -- what comes after the rewind: from the failed record on, or what came before in another
  -- partition
  have hcome : ∀ {next}, ToCome log (message.topicPartition :: failed) messages
      (g.rewound message) next →
      next.topicPartition = message.topicPartition ∧ message.offset ≤ next.offset ∨
        next.topicPartition ≠ message.topicPartition ∧
          ToCome log failed (message :: messages) g next := by
    intro next hnext
    by_cases hp : next.topicPartition = message.topicPartition
    · refine Or.inl ⟨hp, ?_⟩
      rcases hnext with ⟨-, hnew⟩ | ⟨-, hposition⟩
      · simp [hp] at hnew
      · simpa [Group.rewound, hp] using hposition
    · refine Or.inr ⟨hp, ?_⟩
      rcases hnext with ⟨hmem, hnew⟩ | ⟨hlog, hposition⟩
      · exact Or.inl ⟨List.mem_cons_of_mem _ hmem, fun hf => hnew (List.mem_cons_of_mem _ hf)⟩
      · exact Or.inr ⟨hlog, by simpa [Group.rewound, hp] using hposition⟩
  refine ⟨?_, ?_, ?_, h.trails⟩
  · intro m hm hlt
    by_cases hp : m.topicPartition = message.topicPartition
    · simp only [Group.rewound, hp, Function.update_self] at hlt
      -- the record that failed is ahead of the position, and nothing between is to come
      have hposition := hunderway.ahead message (by simp) hopen
      rcases h.behind m hm (by rw [hp]; omega) with hcovered | hmem
      · exact Or.inl hcovered
      · have hle := hunderway.le_toCome hopen (Or.inl hmem) hp
        omega
    · simp only [Group.rewound, Function.update_of_ne hp] at hlt
      refine (h.behind m hm hlt).imp_right fun hmem => ⟨?_, by simp [hp, hmem.2]⟩
      exact (List.mem_cons.mp hmem.1).resolve_left fun heq => hp (by rw [heq])
  · intro m hm hcovered next hnext hsame
    rcases hcome hnext with ⟨hp, hle⟩ | ⟨-, hold⟩
    · exact (h.covered m hm hcovered message (.head hopen) (hp.symm.trans hsame)).trans hle
    · exact h.covered m hm hcovered next hold hsame
  · intro p hp next hnext hsame
    rcases hcome hnext with ⟨hpartition, hle⟩ | ⟨-, hold⟩
    · exact (h.follows p hp message (.head hopen) (hpartition.symm.trans hsame)).trans hle
    · exact h.follows p hp next hold hsame

/-! ### From one poll to the next -/

/-- A poll never moves a position back. -/
theorem Fetched.position_le {records : Polled ν} (h : Fetched log g records)
    (p : TopicPartition) : g.position p ≤ advancedPosition g records p := by
  unfold advancedPosition
  split
  · rename_i last hlast
    have hmem := List.mem_filter.mp (List.mem_of_getLast? hlast)
    have hposition := (h.stored last hmem.1).2
    have hp : last.topicPartition = p := by simpa using hmem.2
    rw [hp] at hposition
    omega
  · exact le_rfl

/-- The batch right after its poll: what is to come is what was to come before, and between the
old positions and the new ones nothing is left out. -/
theorem Paced.poll {records : Polled ν} (h : Paced log [] [] done g)
    (hfetched : Fetched log g records) :
    Paced log [] records.messages done (g.advanced records) := by
  have hcome : ∀ {next}, ToCome log [] records.messages (g.advanced records) next →
      ToCome log [] [] g next := by
    intro next hnext
    rcases hnext with ⟨hmem, -⟩ | ⟨hlog, hposition⟩
    · exact Or.inr (hfetched.stored next hmem)
    · exact Or.inr ⟨hlog, (hfetched.position_le _).trans hposition⟩
  refine ⟨?_, fun m hm hcovered next hnext => h.covered m hm hcovered next (hcome hnext),
    fun p hp next hnext => h.follows p hp next (hcome hnext), h.trails⟩
  intro m hm hlt
  by_cases hold : m.offset < g.position m.topicPartition
  · exact Or.inl ((h.behind m hm hold).resolve_right (by simp))
  · simp only [Group.advanced, advancedPosition] at hlt
    split at hlt
    · rename_i last hlast
      have hmem := List.mem_filter.mp (List.mem_of_getLast? hlast)
      have hp : last.topicPartition = m.topicPartition := by simpa using hmem.2
      exact Or.inr ⟨hfetched.gapless last hmem.1 m hm hp.symm (not_lt.mp hold)
        (Nat.lt_succ_iff.mp hlt), by simp⟩
    · exact absurd hlt hold

/-- After a batch that did not raise nothing of it is to come. -/
theorem Paced.idle (h : Paced log failed [] done g) : Paced log [] [] done g where
  behind m hm hlt := Or.inl ((h.behind m hm hlt).resolve_right (by simp))
  covered m hm hcovered next hnext :=
    h.covered m hm hcovered next (Or.inr (hnext.resolve_left (by simp)))
  follows p hp next hnext := h.follows p hp next (Or.inr (hnext.resolve_left (by simp)))
  trails := h.trails

/-- A rebuilt consumer takes up what is not committed. -/
theorem Trails.rebuilt (h : Trails log done g) : Paced log [] [] done g.rebuilt := by
  have hcovered : ∀ m : ConsumerRecord ν, g.rebuilt.position m.topicPartition ≤ m.offset →
      ¬ Covered g m := by
    intro m hposition hcovered
    obtain ⟨n, hn, hlt⟩ := hcovered
    simp only [Group.rebuilt, hn, Option.getD_some] at hposition
    omega
  refine ⟨?_, ?_, ?_, h⟩
  · intro m _ hlt
    simp only [Group.rebuilt] at hlt
    cases hn : g.committed m.topicPartition with
    | none => simp [hn] at hlt
    | some n => exact Or.inl ⟨n, hn, by simpa [hn] using hlt⟩
  · intro m _ hcovered' next hnext hsame
    obtain ⟨n, hn, hlt⟩ := hcovered'
    obtain ⟨hmem, -⟩ | ⟨-, hposition⟩ := hnext
    · simp at hmem
    · simp only [Group.rebuilt, hsame] at hposition hn
      simp only [hn, Option.getD_some] at hposition
      omega
  · intro p hp next hnext hsame
    obtain ⟨hmem, -⟩ | ⟨hlog, hposition⟩ := hnext
    · simp at hmem
    · exact h p hp next hlog hsame (hcovered next hposition)

theorem paced_fresh : Paced log [] [] (∅ : Set (ConsumerRecord ν)) Group.fresh where
  behind m _ hlt := by simp [Group.fresh] at hlt
  covered m _ hcovered := by simp [Covered, Group.fresh] at hcovered
  follows p hp := absurd hp (Set.notMem_empty p)
  trails p hp := absurd hp (Set.notMem_empty p)

end EventPipeline.Guarantees
