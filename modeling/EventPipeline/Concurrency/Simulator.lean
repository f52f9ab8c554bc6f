import EventPipeline.Concurrency.Transactions
import Mathlib.Data.List.Nodup

/-!
# EventPipeline.Concurrency.Simulator

Interleavings as scripts. A script says which transaction moves next; `play`
executes it, computing who holds which lock, and `play_run` says that what it
computes is a run of the system. Concrete interleavings are then evaluated instead
of being built step by step.
-/

namespace EventPipeline.Concurrency

/-- A system whose open transactions are listed. The listing makes the steps computable, and the
transactions of a concrete schedule can be evaluated. -/
structure Sim (Stmt : Type) (Res : Stmt → Type) (ε α L Db Ext Write Lock : Type) where
  db : Db
  ext : Ext
  clock : Nat
  opened : List (Nat × Thread Stmt Res ε α L Write Lock)
  distinct : (opened.map Prod.fst).Nodup

/-- One move of a script. -/
inductive Action (L Choice : Type)
  | begin (i : Nat) (l : L)
  | stmt (i : Nat) (c : Choice)
  | commit (i : Nat)
  | abort (i : Nat)
  | tick (d : Nat)

variable {Stmt : Type} {Res : Stmt → Type} {ε α L Db Ext Write Lock Choice : Type}

namespace Sim

/-- Transaction `i`. -/
def thread (σ : Sim Stmt Res ε α L Db Ext Write Lock) (i : Nat) :
    Option (Thread Stmt Res ε α L Write Lock) :=
  (σ.opened.find? fun p => p.1 = i).map Prod.snd

/-- The system a listed one stands for. -/
def toSystem (σ : Sim Stmt Res ε α L Db Ext Write Lock) :
    System Stmt Res ε α L Db Ext Write Lock :=
  ⟨σ.db, σ.ext, σ.clock, σ.thread⟩

/-- No transaction is open. -/
def start (db : Db) (ext : Ext) : Sim Stmt Res ε α L Db Ext Write Lock := ⟨db, ext, 0, [], .nil⟩

/-- The transactions other than `i`. -/
def others (σ : Sim Stmt Res ε α L Db Ext Write Lock) (i : Nat) :
    List (Nat × Thread Stmt Res ε α L Write Lock) :=
  σ.opened.filter fun p => p.1 ≠ i

theorem others_distinct (σ : Sim Stmt Res ε α L Db Ext Write Lock) (i : Nat) :
    ((σ.others i).map Prod.fst).Nodup :=
  σ.distinct.sublist (List.filter_sublist.map _)

/-- Close transaction `i`. -/
def close (σ : Sim Stmt Res ε α L Db Ext Write Lock) (i : Nat) :
    Sim Stmt Res ε α L Db Ext Write Lock :=
  { σ with opened := σ.others i, distinct := σ.others_distinct i }

/-- Open transaction `i`, or replace it. -/
def put (σ : Sim Stmt Res ε α L Db Ext Write Lock) (i : Nat)
    (t : Thread Stmt Res ε α L Write Lock) : Sim Stmt Res ε α L Db Ext Write Lock where
  db := σ.db
  ext := σ.ext
  clock := σ.clock
  opened := (i, t) :: σ.others i
  distinct := by
    rw [List.map_cons, List.nodup_cons]
    refine ⟨?_, σ.others_distinct i⟩
    simp [others]

theorem thread_others (σ : Sim Stmt Res ε α L Db Ext Write Lock) (i j : Nat) :
    ((σ.others i).find? fun p => p.1 = j).map Prod.snd = if j = i then none else σ.thread j := by
  rw [others, List.find?_filter, thread]
  split_ifs with h
  · subst h
    rw [Option.map_eq_none_iff, List.find?_eq_none]
    simp
  · have hsame : (fun p : Nat × Thread Stmt Res ε α L Write Lock =>
        decide (decide (p.1 ≠ i) = true ∧ decide (p.1 = j) = true)) = fun p => decide (p.1 = j) := by
      funext p
      by_cases hp : p.1 = j <;> simp [hp, h]
    rw [hsame]

theorem toSystem_close (σ : Sim Stmt Res ε α L Db Ext Write Lock) (i : Nat) :
    (σ.close i).toSystem = σ.toSystem.put i none := by
  rw [System.put, toSystem, toSystem]
  refine congrArg _ (funext fun j => ?_)
  rw [Function.update_apply]
  exact σ.thread_others i j

theorem toSystem_put (σ : Sim Stmt Res ε α L Db Ext Write Lock) (i : Nat)
    (t : Thread Stmt Res ε α L Write Lock) :
    (σ.put i t).toSystem = σ.toSystem.put i (some t) := by
  rw [System.put, toSystem, toSystem]
  refine congrArg _ (funext fun j => ?_)
  rw [Function.update_apply, thread, put, List.find?_cons]
  by_cases h : i = j
  · simp [h]
  · have hj : ¬j = i := fun h' => h h'.symm
    simp only [h, decide_false, hj, if_false]
    rw [σ.thread_others i j, if_neg hj]

theorem thread_put (σ : Sim Stmt Res ε α L Db Ext Write Lock) (i : Nat)
    (t : Thread Stmt Res ε α L Write Lock) : (σ.put i t).thread i = some t := by
  simp [thread, put]

theorem thread_close (σ : Sim Stmt Res ε α L Db Ext Write Lock) (i : Nat) :
    (σ.close i).thread i = none := by
  have h := σ.thread_others i i
  rwa [if_pos rfl] at h

variable [DecidableEq Lock]

/-- The locks of the transactions other than `i`. -/
def held (σ : Sim Stmt Res ε α L Db Ext Write Lock) (i : Nat) (k : Lock) : Bool :=
  (σ.others i).any fun p => decide (k ∈ p.2.locks)

theorem held_iff (σ : Sim Stmt Res ε α L Db Ext Write Lock) (i : Nat) (k : Lock) :
    σ.held i k = true ↔ σ.toSystem.HeldByOthers i k := by
  simp only [held, List.any_eq_true, decide_eq_true_eq, System.HeldByOthers, toSystem]
  constructor
  · rintro ⟨⟨j, t⟩, hmem, hk⟩
    have hp := List.mem_filter.mp hmem
    have hne : j ≠ i := by simpa using hp.2
    refine ⟨j, t, hne, ?_, hk⟩
    rw [thread, Option.map_eq_some_iff]
    refine ⟨(j, t), ?_, rfl⟩
    have hfind : (σ.opened.find? fun p => p.1 = j).isSome := by
      rw [List.find?_isSome]
      exact ⟨(j, t), hp.1, by simp⟩
    obtain ⟨q, hq⟩ := Option.isSome_iff_exists.mp hfind
    have hqj : q.1 = j := by simpa using List.find?_some hq
    rw [hq]
    exact congrArg some
      (List.inj_on_of_nodup_map σ.distinct (List.mem_of_find?_eq_some hq) hp.1 hqj)
  · rintro ⟨j, t, hne, hthread, hk⟩
    rw [thread, Option.map_eq_some_iff] at hthread
    obtain ⟨⟨j', t'⟩, hfind, rfl⟩ := hthread
    have hj : j' = j := by simpa using List.find?_some hfind
    refine ⟨(j', t'), List.mem_filter.mpr ⟨List.mem_of_find?_eq_some hfind, ?_⟩, hk⟩
    simpa [hj] using hne

end Sim

section Play

variable [DecidableEq Lock] (E : Engine Stmt Res ε Db Ext Write Lock Choice)
  (program : L → Prog Stmt Res ε α)

/-- The next statement of an open transaction. -/
def performStmt (σ : Sim Stmt Res ε α L Db Ext Write Lock) (i : Nat) (c : Choice)
    (t : Thread Stmt Res ε α L Write Lock) :
    Option (Event Stmt Res ε α L × Sim Stmt Res ε α L Db Ext Write Lock) :=
  match t.prog with
  | .op q k =>
      match E.exec q ⟨E.visible (σ.toSystem.viewOf t), σ.ext, σ.held i, t.startedAt, σ.clock, c⟩ with
      | .blocked => none
      | .failed e => some (.rolledBack t.label (some e), σ.close i)
      | .done r ws ls x =>
          some (.ran t.label q r,
            { σ with ext := x }.put i
              ⟨t.label, k r, t.writes ++ ws, t.locks ++ ls, t.startedAt⟩)
  | .throw e => some (.rolledBack t.label (some e), σ.close i)
  | .ret _ => none

/-- One move; `none` where the transaction cannot make it. -/
def perform : Action L Choice → Sim Stmt Res ε α L Db Ext Write Lock →
    Option (Event Stmt Res ε α L × Sim Stmt Res ε α L Db Ext Write Lock)
  | .begin i l, σ =>
      match σ.thread i with
      | none => some (.began l, σ.put i ⟨l, program l, [], [], σ.clock⟩)
      | some _ => none
  | .stmt i c, σ => (σ.thread i).bind (performStmt E σ i c)
  | .commit i, σ =>
      match σ.thread i with
      | some ⟨l, .ret a, ws, _, _⟩ =>
          some (.committed l a, { σ with db := E.applyAll ws σ.db }.close i)
      | _ => none
  | .abort i, σ => (σ.thread i).map fun t => (.rolledBack t.label none, σ.close i)
  | .tick d, σ => some (.drifted, { σ with clock := σ.clock + d })

/-- A script, with the steps it made. -/
def play : List (Action L Choice) → Sim Stmt Res ε α L Db Ext Write Lock →
    Option (List (Event Stmt Res ε α L) × Sim Stmt Res ε α L Db Ext Write Lock)
  | [], σ => some ([], σ)
  | a :: as, σ =>
      match perform E program a σ with
      | none => none
      | some (e, σ') => (play as σ').map fun p => (e :: p.1, p.2)

variable {E program}

theorem performStmt_step {σ σ' : Sim Stmt Res ε α L Db Ext Write Lock} {i : Nat} {c : Choice}
    {t : Thread Stmt Res ε α L Write Lock} {e : Event Stmt Res ε α L}
    (ht : σ.thread i = some t) (h : performStmt E σ i c t = some (e, σ')) :
    Step E program σ.toSystem e σ'.toSystem := by
  unfold performStmt at h
  split at h
  · rename_i q k hp
    split at h
    · simp at h
    · rename_i err hexec
      simp only [Option.some.injEq, Prod.mk.injEq] at h
      obtain ⟨rfl, rfl⟩ := h
      rw [Sim.toSystem_close]
      exact .fail ht hp (σ.held_iff i) hexec
    · rename_i r ws ls x hexec
      simp only [Option.some.injEq, Prod.mk.injEq] at h
      obtain ⟨rfl, rfl⟩ := h
      rw [Sim.toSystem_put]
      exact .stmt ht hp (σ.held_iff i) hexec
  · rename_i err hp
    simp only [Option.some.injEq, Prod.mk.injEq] at h
    obtain ⟨rfl, rfl⟩ := h
    rw [Sim.toSystem_close]
    exact .raise ht hp
  · simp at h

theorem perform_step {a : Action L Choice} {σ σ' : Sim Stmt Res ε α L Db Ext Write Lock}
    {e : Event Stmt Res ε α L} (h : perform E program a σ = some (e, σ')) :
    Step E program σ.toSystem e σ'.toSystem := by
  cases a with
  | begin i l =>
      simp only [perform] at h
      split at h
      · rename_i hnone
        simp only [Option.some.injEq, Prod.mk.injEq] at h
        obtain ⟨rfl, rfl⟩ := h
        rw [Sim.toSystem_put]
        exact .begin l hnone
      · simp at h
  -- the five ways a statement can go are a lemma of their own
  | stmt i c =>
      obtain ⟨t, ht, h⟩ := Option.bind_eq_some_iff.mp h
      exact performStmt_step ht h
  | commit i =>
      simp only [perform] at h
      split at h
      · rename_i l a ws ls n ht
        simp only [Option.some.injEq, Prod.mk.injEq] at h
        obtain ⟨rfl, rfl⟩ := h
        rw [Sim.toSystem_close]
        exact Step.commit (t := ⟨l, .ret a, ws, ls, n⟩) ht rfl
      · simp at h
  | abort i =>
      simp only [perform, Option.map_eq_some_iff, Prod.mk.injEq] at h
      obtain ⟨t, ht, rfl, rfl⟩ := h
      rw [Sim.toSystem_close]
      exact .abort ht
  | tick d =>
      simp only [perform, Option.some.injEq, Prod.mk.injEq] at h
      obtain ⟨rfl, rfl⟩ := h
      exact .tick d

theorem perform_begin {i : Nat} {l : L} {σ σ' : Sim Stmt Res ε α L Db Ext Write Lock}
    {e : Event Stmt Res ε α L} (h : perform E program (.begin i l) σ = some (e, σ')) :
    e = .began l := by
  simp only [perform] at h
  split at h
  · exact (Prod.mk.inj (Option.some.inj h)).1.symm
  · simp at h

theorem perform_commit {i : Nat} {σ σ' : Sim Stmt Res ε α L Db Ext Write Lock}
    {e : Event Stmt Res ε α L} (h : perform E program (.commit i) σ = some (e, σ')) :
    ∃ t a, σ.thread i = some t ∧ e = .committed t.label a := by
  simp only [perform] at h
  split at h
  · rename_i l a ws ls n ht
    exact ⟨_, a, ht, (Prod.mk.inj (Option.some.inj h)).1.symm⟩
  · simp at h

/-- A script is its first move and the rest. -/
theorem play_cons {a : Action L Choice} {as : List (Action L Choice)}
    {σ σ' : Sim Stmt Res ε α L Db Ext Write Lock} {es : List (Event Stmt Res ε α L)} :
    play E program (a :: as) σ = some (es, σ') ↔
      ∃ e σ₁ es₁, perform E program a σ = some (e, σ₁) ∧
        play E program as σ₁ = some (es₁, σ') ∧ es = e :: es₁ := by
  rw [play]
  constructor
  · intro h
    split at h
    · cases h
    · rename_i e σ₁ hperform
      obtain ⟨⟨es₁, σ₂⟩, hplay, heq⟩ := Option.map_eq_some_iff.mp h
      cases heq
      exact ⟨e, σ₁, es₁, hperform, hplay, rfl⟩
  · intro h
    obtain ⟨e, σ₁, es₁, hperform, hplay, rfl⟩ := h
    rw [hperform]
    show (play E program as σ₁).map _ = _
    rw [hplay]
    rfl

/-- A script in two parts is played by playing the first and then, from where it ends, the second.
-/
theorem play_append {as bs : List (Action L Choice)} {σ σ' : Sim Stmt Res ε α L Db Ext Write Lock}
    {es : List (Event Stmt Res ε α L)} (h : play E program (as ++ bs) σ = some (es, σ')) :
    ∃ es₁ σ₁ es₂, play E program as σ = some (es₁, σ₁) ∧
      play E program bs σ₁ = some (es₂, σ') := by
  induction as generalizing σ es with
  | nil => exact ⟨[], σ, es, rfl, h⟩
  | cons a as ih =>
      obtain ⟨e, σ₁, es', hperform, hplay, -⟩ := play_cons.mp h
      obtain ⟨es₁, σ₂, es₂, hfirst, hsecond⟩ := ih hplay
      exact ⟨e :: es₁, σ₂, es₂, play_cons.mpr ⟨e, σ₁, es₁, hperform, hfirst, rfl⟩, hsecond⟩

/-- **A script that plays is a run**, by induction on the script: every move is one step of the
system. -/
theorem play_run {as : List (Action L Choice)} {σ σ' : Sim Stmt Res ε α L Db Ext Write Lock}
    {es : List (Event Stmt Res ε α L)} (h : play E program as σ = some (es, σ')) :
    ∃ hist, Run E program σ.toSystem hist σ'.toSystem ∧ hist.map (·.event) = es := by
  induction as generalizing σ es with
  | nil =>
      simp only [play, Option.some.injEq, Prod.mk.injEq] at h
      obtain ⟨rfl, rfl⟩ := h
      exact ⟨[], .nil, rfl⟩
  | cons a as ih =>
      obtain ⟨e, σ₁, es', hperform, hplay, rfl⟩ := play_cons.mp h
      obtain ⟨hist, hrun, hevents⟩ := ih hplay
      have hfirst : Run E program σ.toSystem [⟨σ.toSystem, e, σ₁.toSystem⟩] σ₁.toSystem :=
        .snoc (.nil) (perform_step hperform)
      exact ⟨_, hfirst.trans hrun, by simp [hevents]⟩

/-! ### A transaction in one piece

A statement leaves the committed rows alone: until its commit a transaction only writes to its
own list. So a script that begins a transaction, lets it make its statements and commits it is a
run to the state right before the commit, in which the rows are those of the start, and the
commit of what was begun. -/

/-- A statement leaves the rows alone, and its transaction keeps its label or is closed. -/
theorem performStmt_keeps {σ σ' : Sim Stmt Res ε α L Db Ext Write Lock} {i : Nat} {c : Choice}
    {t : Thread Stmt Res ε α L Write Lock} {e : Event Stmt Res ε α L}
    (h : performStmt E σ i c t = some (e, σ')) :
    σ'.db = σ.db ∧ ∀ t', σ'.thread i = some t' → t'.label = t.label := by
  have hclosed : ∀ t', (σ.close i).thread i = some t' → t'.label = t.label := by
    intro t' ht'
    rw [σ.thread_close i] at ht'
    cases ht'
  unfold performStmt at h
  split at h
  · split at h
    · cases h
    · cases h
      exact ⟨rfl, hclosed⟩
    · cases h
      refine ⟨rfl, fun t' ht' => ?_⟩
      rw [Sim.thread_put] at ht'
      cases ht'
      rfl
  · cases h
    exact ⟨rfl, hclosed⟩
  · cases h

theorem play_statements {i n : Nat} {c : Choice} {l : L}
    {σ σ' : Sim Stmt Res ε α L Db Ext Write Lock} {es : List (Event Stmt Res ε α L)}
    (hlabel : ∀ t, σ.thread i = some t → t.label = l)
    (h : play E program (List.replicate n (.stmt i c)) σ = some (es, σ')) :
    σ'.db = σ.db ∧ ∀ t, σ'.thread i = some t → t.label = l := by
  induction n generalizing σ es with
  | zero =>
      cases h
      exact ⟨rfl, hlabel⟩
  | succ n ih =>
      obtain ⟨e, σ₁, es₁, hperform, hplay, -⟩ := play_cons.mp h
      obtain ⟨t, ht, hstmt⟩ := Option.bind_eq_some_iff.mp hperform
      obtain ⟨hdb, hkeeps⟩ := performStmt_keeps hstmt
      have hnext : ∀ t', σ₁.thread i = some t' → t'.label = l := fun t' ht' =>
        (hkeeps t' ht').trans (hlabel t ht)
      obtain ⟨hdb', hlabel'⟩ := ih hnext hplay
      exact ⟨hdb'.trans hdb, hlabel'⟩

/-- Beginning leaves the rows alone, and the transaction has the label it was begun with. -/
theorem perform_begin_keeps {i : Nat} {l : L} {σ σ' : Sim Stmt Res ε α L Db Ext Write Lock}
    {e : Event Stmt Res ε α L} (h : perform E program (.begin i l) σ = some (e, σ')) :
    σ'.db = σ.db ∧ ∀ t, σ'.thread i = some t → t.label = l := by
  simp only [perform] at h
  split at h
  · cases h
    refine ⟨rfl, fun t ht => ?_⟩
    rw [Sim.thread_put] at ht
    cases ht
    rfl
  · simp at h

/-- **A transaction in one piece.** When the script of one transaction plays, all moves but the
last leave the committed rows as they are, and the last is its commit. -/
theorem play_transaction {i n : Nat} {c : Choice} {l : L}
    {σ σ' : Sim Stmt Res ε α L Db Ext Write Lock} {es : List (Event Stmt Res ε α L)}
    (h : play E program (.begin i l :: List.replicate n (.stmt i c) ++ [.commit i]) σ =
      some (es, σ')) :
    ∃ hist s a, Run E program σ.toSystem hist s ∧ s.db = σ.db ∧
      Step E program s (.committed l a) σ'.toSystem := by
  obtain ⟨es₁, σ₁, es₂, hbody, hlast⟩ := play_append h
  obtain ⟨hist, hrun, -⟩ := play_run hbody
  obtain ⟨e₀, σ₀, es₀, hbegin, hstatements, -⟩ := play_cons.mp hbody
  obtain ⟨hdb₀, hlabel₀⟩ := perform_begin_keeps hbegin
  obtain ⟨hdb, hlabel⟩ := play_statements hlabel₀ hstatements
  obtain ⟨e, σ₂, es₃, hperform, hdone, -⟩ := play_cons.mp hlast
  cases hdone
  obtain ⟨t, a, ht, rfl⟩ := perform_commit hperform
  have hstep := perform_step hperform
  rw [hlabel t ht] at hstep
  exact ⟨hist, _, a, hrun, hdb.trans hdb₀, hstep⟩

end Play

end EventPipeline.Concurrency
