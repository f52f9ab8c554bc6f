import EventPipeline.Concurrency.Program
import Mathlib.Logic.Function.Basic

/-!
# EventPipeline.Concurrency.Transactions

Transactions interleaved statement by statement under READ COMMITTED.

A transaction is a `Prog` whose operations are SQL statements. An `Engine` runs
one statement against the committed rows under the transaction's own writes; the
statement may block on a lock another open transaction holds, fail, or return
rows, pending writes and locks kept to the end of the transaction. `Step`
interleaves any number of transactions at that granularity, with aborts at any
point and a commit that publishes all pending writes at once.

`Protocol` collects what a rely/guarantee argument needs: which locks a write
takes, what stays the same in a row somebody else may not touch, the invariant of
the committed state and how that state may grow. `Protocol.reachable` is the
result: if every program, run alone against an environment that respects its
locks, commits only writes that keep the invariant, then every interleaving does.
-/

namespace EventPipeline.Concurrency

open Prog

/-- What a statement sees: the rows visible to its transaction, the state kept
outside transactions, the locks of the other open transactions, the clock, and a
choice of the environment. -/
structure Env (Db Ext Lock Choice : Type) where
  view : Db
  ext : Ext
  held : Lock → Bool
  startedAt : Nat
  now : Nat
  choice : Choice

/-- What a statement does. -/
inductive Reply (R ε Ext Write Lock : Type)
  | blocked
  | failed (e : ε)
  | done (r : R) (writes : List Write) (locks : List Lock) (ext : Ext)

/-- A database engine: how a pending write changes the rows, how a statement runs,
and how the state outside transactions may move by itself. -/
structure Engine (Stmt : Type) (Res : Stmt → Type) (ε Db Ext Write Lock Choice : Type) where
  apply : Write → Db → Db
  exec : (s : Stmt) → Env Db Ext Lock Choice → Reply (Res s) ε Ext Write Lock
  drift : Ext → Ext → Prop

/-- One transaction's view of the system: the committed rows, the state outside
transactions, and what the transaction has done so far. -/
structure View (Db Ext Write Lock : Type) where
  db : Db
  ext : Ext
  writes : List Write
  locks : List Lock
  startedAt : Nat

variable {Stmt : Type} {Res : Stmt → Type} {ε α L Db Ext Write Lock Choice : Type}

namespace Engine

variable (E : Engine Stmt Res ε Db Ext Write Lock Choice)

/-- Apply pending writes in order. -/
def applyAll (ws : List Write) (db : Db) : Db := ws.foldl (fun db w => E.apply w db) db

@[simp] theorem applyAll_nil (db : Db) : E.applyAll [] db = db := rfl

@[simp] theorem applyAll_cons (w : Write) (ws : List Write) (db : Db) :
    E.applyAll (w :: ws) db = E.applyAll ws (E.apply w db) := rfl

/-- A new transaction over committed rows. -/
def begin (db : Db) (ext : Ext) (now : Nat) : View Db Ext Write Lock := ⟨db, ext, [], [], now⟩

/-- The rows a transaction's next statement sees. -/
def visible (v : View Db Ext Write Lock) : Db := E.applyAll v.writes v.db

/-- The view after a statement. -/
def extend (v : View Db Ext Write Lock) (ws : List Write) (ls : List Lock) (x : Ext) :
    View Db Ext Write Lock :=
  { v with ext := x, writes := v.writes ++ ws, locks := v.locks ++ ls }

/-- A statement may answer `r` and leave the transaction in `v'`. -/
def Answers (s : Stmt) (v : View Db Ext Write Lock) (r : Res s)
    (v' : View Db Ext Write Lock) : Prop :=
  ∃ held now c ws ls x,
    E.exec s ⟨E.visible v, v.ext, held, v.startedAt, now, c⟩ = .done r ws ls x ∧
      v' = extend v ws ls x

/-- A statement may be refused with `e`. -/
def Refuses (s : Stmt) (v : View Db Ext Write Lock) (e : ε) : Prop :=
  ∃ held now c, E.exec s ⟨E.visible v, v.ext, held, v.startedAt, now, c⟩ = .failed e

/-! ### One transaction in one piece -/

/-- How a transaction that runs alone ends. -/
inductive Outcome (ε α V : Type)
  | committed (a : α) (v : V)
  | raised (e : ε)
  | stuck

/-- Run a whole transaction while no other transaction is open. -/
def atomically (now : Nat) (c : Choice) :
    Prog Stmt Res ε α → View Db Ext Write Lock → Outcome ε α (View Db Ext Write Lock)
  | .ret a, v => .committed a v
  | .throw e, _ => .raised e
  | .op s k, v =>
      match E.exec s ⟨E.visible v, v.ext, fun _ => false, v.startedAt, now, c⟩ with
      | .blocked => .stuck
      | .failed e => .raised e
      | .done r ws ls x => atomically now c (k r) (extend v ws ls x)

@[simp] theorem atomically_ret (now : Nat) (c : Choice) (a : α) (v : View Db Ext Write Lock) :
    E.atomically now c (.ret a) v = .committed a v := rfl

@[simp] theorem atomically_throw (now : Nat) (c : Choice) (e : ε)
    (v : View Db Ext Write Lock) :
    E.atomically now c (.throw e : Prog Stmt Res ε α) v = .raised e := rfl

theorem atomically_op (now : Nat) (c : Choice) (s : Stmt) (k : Res s → Prog Stmt Res ε α)
    (v : View Db Ext Write Lock) :
    E.atomically now c (.op s k) v =
      match E.exec s ⟨E.visible v, v.ext, fun _ => false, v.startedAt, now, c⟩ with
      | .blocked => .stuck
      | .failed e => .raised e
      | .done r ws ls x => E.atomically now c (k r) (extend v ws ls x) := by
  rw [atomically]

/-- A transaction that runs alone, with a clock and a choice for each of its statements. The
connection may be lost before any of them, which ends it without an answer. -/
inductive Alone : Prog Stmt Res ε α → View Db Ext Write Lock → Option (Except ε α) →
    View Db Ext Write Lock → Prop
  | ret (a : α) (v : View Db Ext Write Lock) : Alone (.ret a) v (some (.ok a)) v
  | throw (e : ε) (v : View Db Ext Write Lock) : Alone (.throw e) v (some (.error e)) v
  | refused {s : Stmt} {k : Res s → Prog Stmt Res ε α} {v : View Db Ext Write Lock} {e : ε}
      (refuses : E.Refuses s v e) : Alone (.op s k) v (some (.error e)) v
  | answered {s : Stmt} {k : Res s → Prog Stmt Res ε α} {v v' v'' : View Db Ext Write Lock}
      {r : Res s} {out : Option (Except ε α)} (answers : E.Answers s v r v')
      (rest : Alone (k r) v' out v'') : Alone (.op s k) v out v''
  | lost (p : Prog Stmt Res ε α) (v : View Db Ext Write Lock) : Alone p v none v

/-- A run with one clock and one choice is one of these. -/
theorem alone_of_atomically {now : Nat} {c : Choice} {p : Prog Stmt Res ε α}
    {v v' : View Db Ext Write Lock} {a : α} (h : E.atomically now c p v = .committed a v') :
    E.Alone p v (some (.ok a)) v' := by
  induction p generalizing v with
  | ret b =>
      obtain ⟨rfl, rfl⟩ : b = a ∧ v = v' := by simpa using h
      exact .ret b v
  | throw e => simp at h
  | op s k ih =>
      rw [atomically_op] at h
      cases hexec : E.exec s ⟨E.visible v, v.ext, fun _ => false, v.startedAt, now, c⟩ with
      | blocked => simp [hexec] at h
      | failed e => simp [hexec] at h
      | done r ws ls x =>
          rw [hexec] at h
          exact .answered ⟨_, _, _, ws, ls, x, hexec, rfl⟩ (ih r h)

end Engine

/-! ### Interleaved transactions

A system holds the committed rows and the open transactions, and a step advances one of them by
one statement. A statement that would wait for a lock has no step: its transaction stays where it
is until the holder ends, or is rolled back. Pending writes are seen by nobody else, and a commit
publishes them at once. -/

/-- An open transaction: what is left of its program, the writes it has not committed, the locks
it holds and the time it was started at. -/
structure Thread (Stmt : Type) (Res : Stmt → Type) (ε α L Write Lock : Type) where
  label : L
  prog : Prog Stmt Res ε α
  writes : List Write
  locks : List Lock
  startedAt : Nat

/-- The committed rows, the state outside transactions, the clock and the open
transactions. -/
structure System (Stmt : Type) (Res : Stmt → Type) (ε α L Db Ext Write Lock : Type) where
  db : Db
  ext : Ext
  clock : Nat
  threads : Nat → Option (Thread Stmt Res ε α L Write Lock)

/-- What a step of the system was. -/
inductive Event (Stmt : Type) (Res : Stmt → Type) (ε α L : Type)
  | began (l : L)
  | ran (l : L) (q : Stmt) (r : Res q)
  | rolledBack (l : L) (e : Option ε)
  | committed (l : L) (a : α)
  | drifted

namespace System

/-- The view of an open transaction. -/
def viewOf (s : System Stmt Res ε α L Db Ext Write Lock)
    (t : Thread Stmt Res ε α L Write Lock) : View Db Ext Write Lock :=
  ⟨s.db, s.ext, t.writes, t.locks, t.startedAt⟩

/-- No transaction is open. -/
def start (db : Db) (ext : Ext) : System Stmt Res ε α L Db Ext Write Lock :=
  ⟨db, ext, 0, fun _ => none⟩

/-- Replace transaction `i`; `none` closes it. -/
def put (s : System Stmt Res ε α L Db Ext Write Lock) (i : Nat)
    (t : Option (Thread Stmt Res ε α L Write Lock)) :
    System Stmt Res ε α L Db Ext Write Lock :=
  { s with threads := Function.update s.threads i t }

theorem put_threads (s : System Stmt Res ε α L Db Ext Write Lock) (i j : Nat)
    (t : Option (Thread Stmt Res ε α L Write Lock)) :
    (s.put i t).threads j = if j = i then t else s.threads j := by
  simp [put, Function.update_apply]

/-- The locks of the transactions other than `i`. -/
def HeldByOthers (s : System Stmt Res ε α L Db Ext Write Lock) (i : Nat) (k : Lock) : Prop :=
  ∃ j t, j ≠ i ∧ s.threads j = some t ∧ k ∈ t.locks

end System

section Step

variable (E : Engine Stmt Res ε Db Ext Write Lock Choice) (program : L → Prog Stmt Res ε α)

/-- One step: a transaction begins, runs a statement, rolls back, or commits, or
the clock or the outside state moves. A blocked statement has no step. -/
inductive Step : System Stmt Res ε α L Db Ext Write Lock → Event Stmt Res ε α L →
    System Stmt Res ε α L Db Ext Write Lock → Prop
  | begin {s i} (l : L) : s.threads i = none →
      Step s (.began l) (s.put i (some ⟨l, program l, [], [], s.clock⟩))
  | stmt {s i t q k held c r ws ls x} : s.threads i = some t → t.prog = .op q k →
      (∀ key, held key = true ↔ s.HeldByOthers i key) →
      E.exec q ⟨E.visible (s.viewOf t), s.ext, held, t.startedAt, s.clock, c⟩
        = .done r ws ls x →
      Step s (.ran t.label q r)
        ({ s with ext := x }.put i
          (some ⟨t.label, k r, t.writes ++ ws, t.locks ++ ls, t.startedAt⟩))
  | fail {s i t q k held c e} : s.threads i = some t → t.prog = .op q k →
      (∀ key, held key = true ↔ s.HeldByOthers i key) →
      E.exec q ⟨E.visible (s.viewOf t), s.ext, held, t.startedAt, s.clock, c⟩ = .failed e →
      Step s (.rolledBack t.label (some e)) (s.put i none)
  | raise {s i t e} : s.threads i = some t → t.prog = .throw e →
      Step s (.rolledBack t.label (some e)) (s.put i none)
  | abort {s i t} : s.threads i = some t →
      Step s (.rolledBack t.label none) (s.put i none)
  | commit {s i t a} : s.threads i = some t → t.prog = .ret a →
      Step s (.committed t.label a)
        ({ s with db := E.applyAll t.writes s.db }.put i none)
  | tick {s} (d : Nat) : Step s .drifted { s with clock := s.clock + d }
  | drift {s x} : E.drift s.ext x → Step s .drifted { s with ext := x }

/-- One step with the states around it. A run is a list of these, so that a statement about a run
can speak of the rows before and after a commit. -/
structure Transition (Stmt : Type) (Res : Stmt → Type) (ε α L Db Ext Write Lock : Type) where
  before : System Stmt Res ε α L Db Ext Write Lock
  event : Event Stmt Res ε α L
  after : System Stmt Res ε α L Db Ext Write Lock

/-- A run from a given system, with its steps in order. -/
inductive Run (s₀ : System Stmt Res ε α L Db Ext Write Lock) :
    List (Transition Stmt Res ε α L Db Ext Write Lock) →
      System Stmt Res ε α L Db Ext Write Lock → Prop
  | nil : Run s₀ [] s₀
  | snoc {h s e s'} : Run s₀ h s → Step E program s e s' → Run s₀ (h ++ [⟨s, e, s'⟩]) s'

variable {E program}

/-- Runs compose. -/
theorem Run.trans {s₀ s₁ s₂ : System Stmt Res ε α L Db Ext Write Lock}
    {h h' : List (Transition Stmt Res ε α L Db Ext Write Lock)} (hrun : Run E program s₀ h s₁)
    (hrun' : Run E program s₁ h' s₂) : Run E program s₀ (h ++ h') s₂ := by
  induction hrun' with
  | nil => simpa using hrun
  | snoc _ hstep ih =>
      rw [← List.append_assoc]
      exact ih.snoc hstep

/-- Every step of a run starts from the state a shorter run reaches. -/
theorem Run.of_mem {s₀ s : System Stmt Res ε α L Db Ext Write Lock}
    {h : List (Transition Stmt Res ε α L Db Ext Write Lock)} (hrun : Run E program s₀ h s)
    {t : Transition Stmt Res ε α L Db Ext Write Lock} (ht : t ∈ h) :
    ∃ h', h' <+: h ∧ Run E program s₀ h' t.before ∧ Step E program t.before t.event t.after := by
  induction hrun with
  | nil => simp at ht
  | @snoc h s e s' hrun hstep ih =>
      rcases List.mem_append.mp ht with ht | ht
      · obtain ⟨h', hpre, hrun', hstep'⟩ := ih ht
        exact ⟨h', hpre.trans (List.prefix_append _ _), hrun', hstep'⟩
      · obtain rfl := List.mem_singleton.mp ht
        exact ⟨h, List.prefix_append _ _, hrun, hstep⟩

/-- A prefix of a history is the history of a run, and its last step a step from
there. -/
theorem Run.of_prefix {s₀ s : System Stmt Res ε α L Db Ext Write Lock}
    {h h' : List (Transition Stmt Res ε α L Db Ext Write Lock)} (hrun : Run E program s₀ h s)
    {t : Transition Stmt Res ε α L Db Ext Write Lock} (hpre : h' ++ [t] <+: h) :
    Run E program s₀ h' t.before ∧ Step E program t.before t.event t.after := by
  induction hrun with
  | nil => simp [List.prefix_nil] at hpre
  | @snoc h s e s' hrun hstep ih =>
      rcases List.prefix_concat_iff.mp hpre with hwhole | hpre
      · obtain ⟨rfl, htail⟩ := List.append_inj' hwhole rfl
        obtain rfl := List.singleton_inj.mp htail
        exact ⟨hrun, hstep⟩
      · exact ih hpre

/-- What a step starts holds from then on, until a step stops it. -/
theorem Run.since {s₀ s : System Stmt Res ε α L Db Ext Write Lock}
    (starts stops : Transition Stmt Res ε α L Db Ext Write Lock → Prop)
    (Holds : System Stmt Res ε α L Db Ext Write Lock → Prop)
    {h : List (Transition Stmt Res ε α L Db Ext Write Lock)} (hrun : Run E program s₀ h s)
    (hstart : ∀ h s e s', Run E program s₀ h s → Step E program s e s' → starts ⟨s, e, s'⟩ →
      Holds s')
    (hkeep : ∀ h s e s', Run E program s₀ h s → Step E program s e s' → Holds s →
      stops ⟨s, e, s'⟩ ∨ Holds s')
    {pre mid : List (Transition Stmt Res ε α L Db Ext Write Lock)}
    {t : Transition Stmt Res ε α L Db Ext Write Lock} (hsplit : h = pre ++ [t] ++ mid)
    (ht : starts t) : (∃ u ∈ mid, stops u) ∨ Holds s := by
  induction hrun generalizing mid with
  | nil => simp at hsplit
  | @snoc h s e s' hrun hstep ih =>
      rcases List.eq_nil_or_concat mid with rfl | ⟨mid, u, rfl⟩
      · rw [List.append_nil] at hsplit
        obtain ⟨-, hlast⟩ := List.append_inj' hsplit rfl
        obtain rfl := List.singleton_inj.mp hlast
        exact Or.inr (hstart h s e s' hrun hstep ht)
      · rw [List.concat_eq_append, ← List.append_assoc] at hsplit
        obtain ⟨hbefore, hlast⟩ := List.append_inj' hsplit rfl
        obtain rfl := List.singleton_inj.mp hlast
        rcases ih hbefore with ⟨u, hu, hstop⟩ | hholds
        · exact Or.inl ⟨u, by simp [hu], hstop⟩
        · rcases hkeep h s e s' hrun hstep hholds with hstop | hholds
          · exact Or.inl ⟨_, by simp, hstop⟩
          · exact Or.inr hholds

/-- An open transaction began no later than now: it takes the time of the clock when it begins,
and the clock only advances. -/
theorem Run.startedAt_le {db : Db} {x : Ext} {s : System Stmt Res ε α L Db Ext Write Lock}
    {h : List (Transition Stmt Res ε α L Db Ext Write Lock)}
    (hrun : Run E program (System.start db x) h s) {i : Nat}
    {t : Thread Stmt Res ε α L Write Lock} (ht : s.threads i = some t) : t.startedAt ≤ s.clock := by
  induction hrun generalizing i t with
  | nil => simp [System.start] at ht
  | snoc _ hstep ih =>
      cases hstep with
      | begin l hnone =>
          rw [System.put_threads] at ht
          split_ifs at ht
          · obtain rfl := Option.some.inj ht
            exact Nat.le_refl _
          · exact ih ht
      | stmt hold hp hheld hexec =>
          rw [System.put_threads] at ht
          split_ifs at ht
          · obtain rfl := Option.some.inj ht
            have hle := ih hold
            exact hle
          · exact ih ht
      | fail hold | raise hold | abort hold | commit hold =>
          rw [System.put_threads] at ht
          split_ifs at ht
          exact ih ht
      | tick d => exact Nat.le_trans (ih ht) (Nat.le_add_right _ _)
      | drift hx => exact ih ht

end Step

/-! ### Rely/guarantee

A transaction is verified alone, against an environment that may do whatever the protocol allows
to the others: move the committed state along `grows`, keep the invariant, and leave alone what is
under the locks of this transaction. There is one rule for each way a program goes on: a
statement, a statement that only reads, a return, a throw, a computation that may fail. -/

/-- A locking discipline over an engine, with an invariant of the committed state
and the way that state may grow. `keys` are the locks a program has to hold by the
time it has issued a write; `Asks` is what has to hold of the committed rows when it
sends a statement. -/
structure Protocol (E : Engine Stmt Res ε Db Ext Write Lock Choice) where
  keys : Write → List Lock
  Asks : Stmt → Db → Prop
  Same : Lock → Db → Db → Prop
  Inv : Db → Ext → Prop
  Grows : Db → Ext → Db → Ext → Prop
  same_refl : ∀ k db, Same k db db
  same_trans : ∀ k a b c, Same k a b → Same k b c → Same k a c
  grows_refl : ∀ db x, Grows db x db x
  grows_trans : ∀ a x b y c z, Grows a x b y → Grows b y c z → Grows a x c z
  same_apply : ∀ k w db, k ∉ keys w → Same k db (E.apply w db)
  exec_free : ∀ s env r ws ls x, E.exec s env = .done r ws ls x →
    ∀ k ∈ ls, env.held k = false
  exec_ext : ∀ s env r ws ls x db, E.exec s env = .done r ws ls x → Asks s db →
    Inv db env.ext → Inv db x ∧ Grows db env.ext db x
  drift_ext : ∀ x x' db, E.drift x x' → Inv db x → Inv db x' ∧ Grows db x db x'

namespace Protocol

variable {E : Engine Stmt Res ε Db Ext Write Lock Choice} (P : Protocol E)

/-- What the other transactions may do between two statements of this one: they
leave its locked rows alone, only grow the committed state, and keep the
invariant. -/
structure Rely (v v' : View Db Ext Write Lock) : Prop where
  writes : v'.writes = v.writes
  locks : v'.locks = v.locks
  startedAt : v'.startedAt = v.startedAt
  same : ∀ k ∈ v.locks, P.Same k v.db v'.db
  grows : P.Grows v.db v.ext v'.db v'.ext
  inv : P.Inv v.db v.ext → P.Inv v'.db v'.ext

theorem Rely.refl (v : View Db Ext Write Lock) : P.Rely v v :=
  ⟨rfl, rfl, rfl, fun k _ => P.same_refl k _, P.grows_refl _ _, id⟩

theorem Rely.trans {a b c : View Db Ext Write Lock} (h : P.Rely a b) (h' : P.Rely b c) :
    P.Rely a c where
  writes := h'.writes.trans h.writes
  locks := h'.locks.trans h.locks
  startedAt := h'.startedAt.trans h.startedAt
  same k hk := P.same_trans k _ _ _ (h.same k hk) (h'.same k (h.locks ▸ hk))
  grows := P.grows_trans _ _ _ _ _ _ h.grows h'.grows
  inv := h'.inv ∘ h.inv

/-- Every pending write is under its locks. -/
def Covered (v : View Db Ext Write Lock) : Prop := ∀ w ∈ v.writes, ∀ k ∈ P.keys w, k ∈ v.locks

theorem Covered.of_rely {v v' : View Db Ext Write Lock} (h : P.Covered v) (hr : P.Rely v v') :
    P.Covered v' := by
  intro w hw k hk
  rw [hr.locks]
  exact h w (hr.writes ▸ hw) k hk

theorem covered_begin (db : Db) (x : Ext) (now : Nat) :
    P.Covered (Engine.begin db x now : View Db Ext Write Lock) := by
  simp [Covered, Engine.begin]

/-- The invariant holds of the committed state and every pending write is under its
locks. -/
structure Ready (v : View Db Ext Write Lock) : Prop where
  inv : P.Inv v.db v.ext
  covered : P.Covered v

theorem Ready.of_rely {v v' : View Db Ext Write Lock} (h : P.Ready v) (hr : P.Rely v v') :
    P.Ready v' :=
  ⟨hr.inv h.inv, h.covered.of_rely P hr⟩

/-- The environment of one transaction of the task `l`, in runs whose events are
all `ok`. A statement that is refused has to be refused for a reason in `F`. -/
def world (ok : Event Stmt Res ε α L → Prop) (l : L) (F : ε → View Db Ext Write Lock → Prop) :
    World Stmt Res (View Db Ext Write Lock) :=
  ⟨fun q v r v' => E.Answers q v r v' ∧ ok (.ran l q r), P.Rely, P.Covered,
    fun q v => P.Asks q v.db ∧ ∀ e, E.Refuses q v e → F e v⟩

/-- A transaction run against the protocol's environment ends a commit in `Q` and a
rollback with an exception in `F`. -/
abbrev Ends {β : Type} (ok : Event Stmt Res ε α L → Prop) (l : L)
    (Q : β → View Db Ext Write Lock → Prop) (F : ε → View Db Ext Write Lock → Prop)
    (p : Prog Stmt Res ε β) (v : View Db Ext Write Lock) : Prop :=
  Sat (P.world ok l F) Q F p v

/-- A transaction run against the protocol's environment ends a commit in `Q`. -/
abbrev Ensures {β : Type} (ok : Event Stmt Res ε α L → Prop) (l : L)
    (Q : β → View Db Ext Write Lock → Prop) (p : Prog Stmt Res ε β)
    (v : View Db Ext Write Lock) : Prop :=
  P.Ends ok l Q (fun _ _ => True) p v

variable {ok : Event Stmt Res ε α L → Prop} {l : L} {β : Type}
variable {F : ε → View Db Ext Write Lock → Prop}

/-- The statement rule: other transactions move first, then the statement answers or
is refused; the new writes have to be under locks. -/
theorem ends_op {Q : β → View Db Ext Write Lock → Prop} {s : Stmt}
    {k : Res s → Prog Stmt Res ε β} {v : View Db Ext Write Lock} (hready : P.Ready v)
    (h : ∀ v', P.Rely v v' → P.Ready v' → ∀ held now c r ws ls x,
      E.exec s ⟨E.visible v', v'.ext, held, v'.startedAt, now, c⟩ = .done r ws ls x →
      ok (.ran l s r) → P.Grows v'.db v'.ext v'.db x →
      (∀ w ∈ ws, ∀ k ∈ P.keys w, k ∈ v'.locks ++ ls) ∧
      (P.Ready (Engine.extend v' ws ls x) →
        P.Ends ok l Q F (k r) (Engine.extend v' ws ls x)))
    (hfails : ∀ v', P.Rely v v' → P.Ready v' → ∀ e, E.Refuses s v' e → F e v' := by
      intros; trivial)
    (hasks : ∀ v', P.Rely v v' → P.Ready v' → P.Asks s v'.db := by intros; trivial) :
    P.Ends ok l Q F (.op s k) v := by
  intro v' hr
  have hready' := hready.of_rely P hr
  refine ⟨⟨hasks v' hr hready', hfails v' hr hready'⟩, fun r v'' hs => ?_⟩
  obtain ⟨⟨held, now, c, ws, ls, x, hexec, rfl⟩, hok⟩ := hs
  obtain ⟨hx, hg⟩ := P.exec_ext _ _ _ _ _ _ v'.db hexec (hasks v' hr hready') hready'.inv
  obtain ⟨hnew, hk⟩ := h v' hr hready' held now c r ws ls x hexec hok hg
  have hcov : P.Covered (Engine.extend v' ws ls x) := by
    intro w hw key hkey
    rcases List.mem_append.mp hw with hw | hw
    · exact List.mem_append_left _ (hready'.covered w hw key hkey)
    · exact hnew w hw key hkey
  exact ⟨hcov, hk ⟨hx, hcov⟩⟩

/-- The statement rule in front of a continuation. -/
theorem ends_call {Q : β → View Db Ext Write Lock → Prop} {s : Stmt}
    {f : Res s → Prog Stmt Res ε β} {v : View Db Ext Write Lock} (hready : P.Ready v)
    (h : ∀ v', P.Rely v v' → P.Ready v' → ∀ held now c r ws ls x,
      E.exec s ⟨E.visible v', v'.ext, held, v'.startedAt, now, c⟩ = .done r ws ls x →
      ok (.ran l s r) → P.Grows v'.db v'.ext v'.db x →
      (∀ w ∈ ws, ∀ k ∈ P.keys w, k ∈ v'.locks ++ ls) ∧
      (P.Ready (Engine.extend v' ws ls x) →
        P.Ends ok l Q F (f r) (Engine.extend v' ws ls x)))
    (hfails : ∀ v', P.Rely v v' → P.Ready v' → ∀ e, E.Refuses s v' e → F e v' := by
      intros; trivial)
    (hasks : ∀ v', P.Rely v v' → P.Ready v' → P.Asks s v'.db := by intros; trivial) :
    P.Ends ok l Q F (Prog.call s >>= f) v :=
  P.ends_op hready h hfails hasks

/-- The statement rule for a statement that writes and locks nothing. -/
theorem ends_select {Q : β → View Db Ext Write Lock → Prop} {s : Stmt}
    {f : Res s → Prog Stmt Res ε β} {v : View Db Ext Write Lock} (hready : P.Ready v)
    (h : ∀ v', P.Rely v v' → P.Ready v' → ∀ held now c r ws ls x,
      E.exec s ⟨E.visible v', v'.ext, held, v'.startedAt, now, c⟩ = .done r ws ls x →
      ok (.ran l s r) →
      ws = [] ∧ ls = [] ∧ x = v'.ext ∧ P.Ends ok l Q F (f r) v')
    (hfails : ∀ v', P.Rely v v' → P.Ready v' → ∀ e, E.Refuses s v' e → F e v' := by
      intros; trivial)
    (hasks : ∀ v', P.Rely v v' → P.Ready v' → P.Asks s v'.db := by intros; trivial) :
    P.Ends ok l Q F (Prog.call s >>= f) v := by
  refine P.ends_op hready (fun v' hr hready' held now c r ws ls x hexec hok _ => ?_) hfails hasks
  obtain ⟨rfl, rfl, rfl, hk⟩ := h v' hr hready' held now c r ws ls x hexec hok
  have hself : Engine.extend v' [] [] v'.ext = v' := by simp [Engine.extend]
  exact ⟨by simp, fun _ => hself.symm ▸ hk⟩

theorem ends_throw {Q : β → View Db Ext Write Lock → Prop} {e : ε} {v : View Db Ext Write Lock}
    (hfails : ∀ v', P.Rely v v' → F e v' := by intros; trivial) :
    P.Ends ok l Q F (.throw e) v := hfails

theorem Ends.of_rely {Q : β → View Db Ext Write Lock → Prop} {p : Prog Stmt Res ε β}
    {v v' : View Db Ext Write Lock} (h : P.Ends ok l Q F p v) (hr : P.Rely v v') :
    P.Ends ok l Q F p v' :=
  Sat.of_rely (fun _ _ _ h h' => Rely.trans P h h') h hr

theorem Ends.bind {γ : Type} {Q : β → View Db Ext Write Lock → Prop}
    {R : γ → View Db Ext Write Lock → Prop} {p : Prog Stmt Res ε β}
    {f : β → Prog Stmt Res ε γ} {v : View Db Ext Write Lock} (h : P.Ends ok l Q F p v)
    (hf : ∀ a v, Q a v → P.Ends ok l R F (f a) v) : P.Ends ok l R F (p >>= f) v :=
  Sat.bind (fun v => Rely.refl P v) h hf

theorem ends_ret {Q : β → View Db Ext Write Lock → Prop} {a : β}
    {v : View Db Ext Write Lock} (h : ∀ v', P.Rely v v' → Q a v') :
    P.Ends ok l Q F (.ret a) v :=
  h

theorem ends_ofExcept {γ : Type} {Q : γ → View Db Ext Write Lock → Prop} {e : Except ε β}
    {f : β → Prog Stmt Res ε γ} {v : View Db Ext Write Lock}
    (h : ∀ a, e = .ok a → P.Ends ok l Q F (f a) v)
    (hfails : ∀ exc, e = .error exc → ∀ v', P.Rely v v' → F exc v' := by intros; trivial) :
    P.Ends ok l Q F (Prog.ofExcept e >>= f) v := by
  cases e with
  | ok a => exact h a rfl
  | error exc => exact P.ends_throw (hfails exc rfl)

/-- A transaction that runs alone is one whose environment does nothing: it ends as it does in any
environment, over the rows it began with. -/
theorem Ends.alone {Q : β → View Db Ext Write Lock → Prop} {p : Prog Stmt Res ε β}
    {v v' : View Db Ext Write Lock} {out : Option (Except ε β)} (h : P.Ends ok l Q F p v)
    (hok : ∀ event, ok event) (hinv : P.Inv v.db v.ext) (hrun : E.Alone p v out v') :
    v'.db = v.db ∧ P.Inv v.db v'.ext ∧ ∀ a, out = some (.ok a) → Q a v' := by
  induction hrun with
  | ret a v =>
      refine ⟨rfl, hinv, fun b hb => ?_⟩
      obtain rfl : a = b := by simpa using hb
      exact h v (Rely.refl P v)
  | throw e v => exact ⟨rfl, hinv, fun a ha => by simp at ha⟩
  | refused refuses => exact ⟨rfl, hinv, fun a ha => by simp at ha⟩
  | lost p v => exact ⟨rfl, hinv, fun a ha => by simp at ha⟩
  | @answered s k v v' v'' r out answers rest ih =>
      obtain ⟨⟨hasks, -⟩, hruns⟩ := h v (Rely.refl P v)
      obtain ⟨held, now, c, ws, ls, x, hexec, hv'⟩ := answers
      obtain ⟨hx, -⟩ := P.exec_ext _ _ _ _ _ _ v.db hexec hasks hinv
      have hrest := (hruns r v' ⟨⟨held, now, c, ws, ls, x, hexec, hv'⟩, hok _⟩).2
      subst hv'
      exact ih hrest hx

/-! ### Every interleaving

`Good` says of every open transaction that it is still on a path to its postcondition. A step of
one transaction is part of the environment of all others, which the locks keep apart; at a commit
the postcondition justifies what is published. -/

theorem same_applyAll {k : Lock} {ws : List Write} (h : ∀ w ∈ ws, k ∉ P.keys w) (db : Db) :
    P.Same k db (E.applyAll ws db) := by
  induction ws generalizing db with
  | nil => exact P.same_refl k db
  | cons w ws ih =>
      exact P.same_trans k _ _ _ (P.same_apply k w db (h w (by simp)))
        (ih (fun w' hw' => h w' (by simp [hw'])) _)

/-- What holds of every reachable system: the committed state satisfies the
invariant, no two transactions hold one lock, every pending write is under a lock,
and every open transaction is still on a path to its postconditions. -/
structure Good (ok : Event Stmt Res ε α L → Prop)
    (Q : L → α → View Db Ext Write Lock → Prop) (F : L → ε → View Db Ext Write Lock → Prop)
    (s : System Stmt Res ε α L Db Ext Write Lock) : Prop where
  inv : P.Inv s.db s.ext
  exclusive : ∀ i j t u, i ≠ j → s.threads i = some t → s.threads j = some u →
    ∀ k ∈ t.locks, k ∉ u.locks
  covered : ∀ i t, s.threads i = some t → P.Covered (s.viewOf t)
  ends : ∀ i t, s.threads i = some t →
    P.Ends ok t.label (Q t.label) (F t.label) t.prog (s.viewOf t)

/-- The postcondition of a program justifies its commit. -/
def Justifies (Q : L → α → View Db Ext Write Lock → Prop) : Prop :=
  ∀ l a v, P.Inv v.db v.ext → Q l a v →
    P.Inv (E.applyAll v.writes v.db) v.ext ∧
      P.Grows v.db v.ext (E.applyAll v.writes v.db) v.ext

variable {P} {Q : L → α → View Db Ext Write Lock → Prop}
  {F : L → ε → View Db Ext Write Lock → Prop} {program : L → Prog Stmt Res ε α}

/-- Removing a transaction keeps everything about the others: what is required of a thread speaks
of that thread, or of two of them. -/
theorem Good.remove {s : System Stmt Res ε α L Db Ext Write Lock} (h : P.Good ok Q F s) (i : Nat) :
    P.Good ok Q F (s.put i none) where
  inv := h.inv
  exclusive a b t u hab ha hb := by
    rw [System.put_threads] at ha hb
    split_ifs at ha hb
    exact h.exclusive a b t u hab ha hb
  covered a t ha := by
    rw [System.put_threads] at ha
    split_ifs at ha
    exact h.covered a t ha
  ends a t ha := by
    rw [System.put_threads] at ha
    split_ifs at ha
    exact h.ends a t ha

/-- The shared state moved under the transactions' feet, leaving their locked rows
alone. -/
theorem Good.move {s : System Stmt Res ε α L Db Ext Write Lock} (h : P.Good ok Q F s) {db : Db}
    {x : Ext} (hinv : P.Inv db x) (hgrows : P.Grows s.db s.ext db x)
    (hsame : ∀ i t, s.threads i = some t → ∀ k ∈ t.locks, P.Same k s.db db) :
    P.Good ok Q F { s with db := db, ext := x } where
  inv := hinv
  exclusive := h.exclusive
  covered := h.covered
  ends i t ht := Ends.of_rely P (h.ends i t ht)
    ⟨rfl, rfl, rfl, hsame i t ht, hgrows, fun _ => hinv⟩

/-- One step keeps `Good`. A step changes at most one thread, and the committed rows only when
that thread commits; the other threads see it as a step of their environment. -/
theorem Good.step (hQ : P.Justifies Q)
    (hprog : ∀ l db x now, P.Inv db x →
      P.Ends ok l (Q l) (F l) (program l) (Engine.begin db x now))
    {s s' : System Stmt Res ε α L Db Ext Write Lock} {e : Event Stmt Res ε α L}
    (h : P.Good ok Q F s) (hstep : Step E program s e s') (hok : ok e) : P.Good ok Q F s' := by
  cases hstep with
  | @begin i l hnone =>
      -- every other thread is as it was
      have hothers : ∀ a t, (s.put i (some ⟨l, program l, [], [], s.clock⟩)).threads a = some t →
          (a = i ∧ t = ⟨l, program l, [], [], s.clock⟩) ∨ s.threads a = some t := by
        intro a t ha
        rw [System.put_threads] at ha
        split_ifs at ha with hai
        · exact Or.inl ⟨hai, (Option.some.inj ha).symm⟩
        · exact Or.inr ha
      refine ⟨h.inv, ?_, ?_, ?_⟩
      · intro a b t u hab ha hb k hk
        rcases hothers a t ha with ⟨rfl, rfl⟩ | ha
        · simp at hk
        · rcases hothers b u hb with ⟨rfl, rfl⟩ | hb
          · simp
          · exact h.exclusive a b t u hab ha hb k hk
      · intro a t ha
        rcases hothers a t ha with ⟨rfl, rfl⟩ | ha
        · exact P.covered_begin s.db s.ext s.clock
        · exact h.covered a t ha
      · intro a t ha
        rcases hothers a t ha with ⟨rfl, rfl⟩ | ha
        · exact hprog l s.db s.ext s.clock h.inv
        · exact h.ends a t ha
  | @stmt i t q k held c r ws ls x ht hp hheld hexec =>
      have hens := h.ends i t ht
      rw [hp] at hens
      obtain ⟨⟨hasks, -⟩, hruns⟩ := hens _ (Rely.refl P _)
      -- a statement may change what is outside of the tables, and takes the locks `ls`
      obtain ⟨hinv, hgrows⟩ := P.exec_ext _ _ _ _ _ _ s.db hexec hasks h.inv
      have hmoved := h.move hinv hgrows fun _ _ _ k _ => P.same_refl k _
      have hrun : P.Covered (Engine.extend (s.viewOf t) ws ls x) ∧
          P.Ends ok t.label (Q t.label) (F t.label) (k r) (Engine.extend (s.viewOf t) ws ls x) :=
        hruns r _ ⟨⟨held, s.clock, c, ws, ls, x, hexec, rfl⟩, hok⟩
      -- a lock that is taken was held by nobody else
      have hfree : ∀ key ∈ ls, ∀ j u, j ≠ i → s.threads j = some u → key ∉ u.locks := by
        intro key hkey j u hj hu hmem
        have hf : held key = false := P.exec_free _ _ _ _ _ _ hexec key hkey
        have ht := (hheld key).mpr ⟨j, u, hj, hu, hmem⟩
        exact absurd ht (by simp [hf])
      refine ⟨hinv, ?_, ?_, ?_⟩
      · -- locks exclude each other: the two threads of a shared key are told apart by who just
        -- moved
        intro a b t' u hab ha hb key hkey
        rw [System.put_threads] at ha hb
        split_ifs at ha hb with hai hbi
        · exact absurd (hai.trans hbi.symm) hab
        · obtain rfl := Option.some.inj ha
          rcases List.mem_append.mp hkey with hk' | hk'
          · exact h.exclusive a b t u hab (hai ▸ ht) hb key hk'
          · exact hfree key hk' b u hbi hb
        · obtain rfl := Option.some.inj hb
          intro hmem
          rcases List.mem_append.mp hmem with hk' | hk'
          · rename_i hbi
            exact h.exclusive a b t' t hab ha (hbi ▸ ht) key hkey hk'
          · exact hfree key hk' a t' hai ha hkey
        · exact h.exclusive a b t' u hab ha hb key hkey
      · intro a t' ha
        rw [System.put_threads] at ha
        split_ifs at ha with hai
        · obtain rfl := Option.some.inj ha
          exact hrun.1
        · exact h.covered a t' ha
      · intro a t' ha
        rw [System.put_threads] at ha
        split_ifs at ha with hai
        · obtain rfl := Option.some.inj ha
          exact hrun.2
        · exact hmoved.ends a t' ha
  | fail ht hp hheld hexec => exact h.remove _
  | raise ht hp => exact h.remove _
  | abort ht => exact h.remove _
  | @commit i t a ht hp =>
      -- the transaction is at its end, so its postcondition holds of what it sees
      have hpost : Q t.label a (s.viewOf t) := by
        have hi := h.ends i t ht
        rw [hp] at hi
        exact hi _ (Rely.refl P _)
      obtain ⟨hinv, hgrows⟩ := hQ t.label a _ h.inv hpost
      -- what it writes is under its locks, which the others do not hold, so they see the same
      refine (h.remove i).move hinv hgrows ?_
      intro j u hj key hkey
      rw [System.put_threads] at hj
      split_ifs at hj with hji
      refine P.same_applyAll (fun w hw hmem => ?_) s.db
      exact h.exclusive i j t u (Ne.symm hji) ht hj key (h.covered i t ht w hw key hmem) hkey
  | tick d => exact ⟨h.inv, h.exclusive, h.covered, h.ends⟩
  | drift hx =>
      obtain ⟨hinv, hgrows⟩ := P.drift_ext _ _ s.db hx h.inv
      exact h.move hinv hgrows fun _ _ _ k _ => P.same_refl k _

/-- One step lets the committed state grow as the protocol says. -/
theorem Good.grows (hQ : P.Justifies Q) {s s' : System Stmt Res ε α L Db Ext Write Lock}
    {e : Event Stmt Res ε α L} (h : P.Good ok Q F s) (hstep : Step E program s e s') :
    P.Grows s.db s.ext s'.db s'.ext := by
  cases hstep with
  | begin l hnone => exact P.grows_refl _ _
  | stmt ht hp hheld hexec =>
      have hends := h.ends _ _ ht
      rw [hp] at hends
      obtain ⟨⟨hasks, -⟩, -⟩ := hends _ (Rely.refl P _)
      exact (P.exec_ext _ _ _ _ _ _ s.db hexec hasks h.inv).2
  | fail ht hp hheld hexec => exact P.grows_refl _ _
  | raise ht hp => exact P.grows_refl _ _
  | abort ht => exact P.grows_refl _ _
  | commit ht hp =>
      have hends := h.ends _ _ ht
      rw [hp] at hends
      exact (hQ _ _ _ h.inv (hends _ (Rely.refl P _))).2
  | tick d => exact P.grows_refl _ _
  | drift hx => exact (P.drift_ext _ _ s.db hx h.inv).2

/-- **Every interleaving keeps the invariant.** By induction on the run, with `Good.step` at every
step; at the beginning no transaction is open. -/
theorem reachable (hQ : P.Justifies Q)
    (hprog : ∀ l db x now, P.Inv db x →
      P.Ends ok l (Q l) (F l) (program l) (Engine.begin db x now))
    {db : Db} {x : Ext} (h₀ : P.Inv db x)
    {h : List (Transition Stmt Res ε α L Db Ext Write Lock)}
    {s : System Stmt Res ε α L Db Ext Write Lock}
    (hrun : Run E program (System.start db x) h s) (hok : ∀ t ∈ h, ok t.event) :
    P.Good ok Q F s := by
  induction hrun with
  | nil =>
      exact ⟨h₀, by simp [System.start], by simp [System.start], by simp [System.start]⟩
  | snoc _ hstep ih =>
      exact (ih fun t ht => hok t (List.mem_append_left _ ht)).step hQ hprog hstep
        (hok _ (List.mem_append_right _ (List.mem_singleton_self _)))

/-- At a commit the postcondition holds of the committing transaction, and its
writes are what the commit publishes. -/
theorem Good.commit_thread {s s' : System Stmt Res ε α L Db Ext Write Lock} (h : P.Good ok Q F s)
    {l : L} {a : α} (hstep : Step E program s (.committed l a) s') :
    ∃ i t, s.threads i = some t ∧ Q l a (s.viewOf t) ∧ s'.db = E.applyAll t.writes s.db ∧
      s'.ext = s.ext := by
  cases hstep with
  | @commit i t a ht hp =>
      refine ⟨i, t, ht, ?_, rfl, rfl⟩
      have hi := h.ends i t ht
      rw [hp] at hi
      exact hi _ (Rely.refl P _)

/-- `Good.commit_thread`, by the view alone. -/
theorem Good.commit_post {s s' : System Stmt Res ε α L Db Ext Write Lock} (h : P.Good ok Q F s)
    {l : L} {a : α} (hstep : Step E program s (.committed l a) s') :
    ∃ v : View Db Ext Write Lock, v.db = s.db ∧ v.ext = s.ext ∧ Q l a v ∧
      s'.db = E.applyAll v.writes v.db ∧ s'.ext = s.ext := by
  obtain ⟨i, t, -, hpost, hdb, hext⟩ := h.commit_thread hstep
  exact ⟨s.viewOf t, rfl, rfl, hpost, hdb, hext⟩

/-- At a rollback with an exception its reason holds, whether a statement was refused
or the program raised. -/
theorem Good.rollback_reason {s s' : System Stmt Res ε α L Db Ext Write Lock}
    (h : P.Good ok Q F s) {l : L} {e : ε} (hstep : Step E program s (.rolledBack l (some e)) s') :
    ∃ v : View Db Ext Write Lock, v.db = s.db ∧ F l e v := by
  cases hstep with
  | @fail i t q k held c e ht hp hheld hexec =>
      have hi := h.ends i t ht
      rw [hp] at hi
      obtain ⟨⟨-, hrefused⟩, -⟩ := hi _ (Rely.refl P _)
      exact ⟨s.viewOf t, rfl, hrefused e ⟨held, s.clock, c, hexec⟩⟩
  | @raise i t e ht hp =>
      have hi := h.ends i t ht
      rw [hp] at hi
      exact ⟨s.viewOf t, rfl, hi _ (Rely.refl P _)⟩

/-- A statement is only sent where it may be asked for. -/
theorem Good.asks {s s' : System Stmt Res ε α L Db Ext Write Lock} (h : P.Good ok Q F s) {l : L}
    {q : Stmt} {r : Res q} (hstep : Step E program s (.ran l q r) s') : P.Asks q s.db := by
  cases hstep with
  | stmt ht hp hheld hexec =>
      have hi := h.ends _ _ ht
      rw [hp] at hi
      exact (hi _ (Rely.refl P _)).1.1

/-- Only a commit changes the committed rows. -/
theorem step_db {s s' : System Stmt Res ε α L Db Ext Write Lock} {e : Event Stmt Res ε α L}
    (hstep : Step E program s e s') (he : ∀ l a, e ≠ .committed l a) : s'.db = s.db := by
  cases hstep with
  | commit ht hp => exact absurd rfl (he _ _)
  | _ => rfl

end Protocol

end EventPipeline.Concurrency
