import Mathlib.Logic.Relation
import Mathlib.Tactic.Common

/-!
# EventPipeline.Concurrency.Program

Effectful programs as trees of operations, and reasoning about them.

A `Prog` is a program text: it returns, throws, or asks its environment to run
one operation and continues with the answer. The same text is then given to
several environments: run in one piece, interleaved with other programs, or cut
off by a crash between two operations. `Prog.Sat` is the Hoare-style predicate
that covers all of them: before every operation the environment may move the
world along `rely`, and after every operation the world must satisfy `inv`, so a
crash at any point leaves a world satisfying `inv`.

`Driver` is the outer loop of a process: it starts programs, runs them operation
by operation, and restarts after a failure or a crash. `Driver.invariant_of_idle` is the
induction over such runs.
-/

namespace EventPipeline.Concurrency

/-- A program over the operations `Op`, where `o : Op` answers in `Res o`. -/
inductive Prog (Op : Type) (Res : Op → Type) (ε α : Type) : Type
  | ret (a : α)
  | throw (e : ε)
  | op (o : Op) (k : Res o → Prog Op Res ε α)

namespace Prog

variable {Op : Type} {Res : Op → Type} {ε ε' α β W : Type}

/-- Sequencing. -/
def bind : Prog Op Res ε α → (α → Prog Op Res ε β) → Prog Op Res ε β
  | .ret a, f => f a
  | .throw e, _ => .throw e
  | .op o k, f => .op o fun r => (k r).bind f

instance : Monad (Prog Op Res ε) where
  pure := .ret
  bind := bind

/-- Run one operation. -/
def call (o : Op) : Prog Op Res ε (Res o) := .op o .ret

/-- `try`: turn a throw into a value. -/
def attempt : Prog Op Res ε α → Prog Op Res ε' (Except ε α)
  | .ret a => .ret (.ok a)
  | .throw e => .ret (.error e)
  | .op o k => .op o fun r => (k r).attempt

/-- Lift a pure computation that may fail. -/
def ofExcept : Except ε α → Prog Op Res ε α
  | .ok a => .ret a
  | .error e => .throw e

@[simp] theorem pure_eq (a : α) : (pure a : Prog Op Res ε α) = .ret a := rfl

@[simp] theorem ret_bind (a : α) (f : α → Prog Op Res ε β) : (Prog.ret a >>= f) = f a := rfl

@[simp] theorem throw_bind (e : ε) (f : α → Prog Op Res ε β) :
    (Prog.throw e >>= f) = .throw e := rfl

@[simp] theorem op_bind (o : Op) (k : Res o → Prog Op Res ε α) (f : α → Prog Op Res ε β) :
    (Prog.op o k >>= f) = .op o fun r => k r >>= f := rfl

@[simp] theorem call_bind (o : Op) (f : Res o → Prog Op Res ε β) :
    (call o >>= f) = .op o f := rfl

@[simp] theorem ofExcept_ok (a : α) : (ofExcept (.ok a) : Prog Op Res ε α) = .ret a := rfl

@[simp] theorem ofExcept_error (e : ε) :
    (ofExcept (.error e) : Prog Op Res ε α) = .throw e := rfl

theorem bind_assoc {γ : Type} (p : Prog Op Res ε α) (f : α → Prog Op Res ε β)
    (g : β → Prog Op Res ε γ) : ((p >>= f) >>= g) = p >>= fun a => f a >>= g := by
  induction p with
  | ret a => rfl
  | throw e => rfl
  | op o k ih => simp only [op_bind, ih]

/-! ### The satisfaction predicate

`Sat` follows the program text. A return and a throw are judged where the environment leaves the
world behind them, and an operation is judged for every answer that the environment can give. The
rules below are those of the constructs a program is put together from: sequencing, a change of
the result, `try`, and an environment in which nothing else runs. -/

/-- What the environment of a program does: how operations answer, how the world
moves between two operations, what must hold after each operation, and which
operations may be asked for where. -/
structure World (Op : Type) (Res : Op → Type) (W : Type) where
  step : (o : Op) → W → Res o → W → Prop
  rely : W → W → Prop
  inv : W → Prop
  asks : Op → W → Prop

/-- From `w`, every run of the program asks only for what it may, keeps `inv` after
each operation, ends a normal run in `Q` and a throwing run in `E`. -/
def Sat (m : World Op Res W) (Q : α → W → Prop) (E : ε → W → Prop) :
    Prog Op Res ε α → W → Prop
  | .ret a, w => ∀ w', m.rely w w' → Q a w'
  | .throw e, w => ∀ w', m.rely w w' → E e w'
  | .op o k, w => ∀ w', m.rely w w' → m.asks o w' ∧
      ∀ r w'', m.step o w' r w'' → m.inv w'' ∧ Sat m Q E (k r) w''

variable {m : World Op Res W} {Q Q' : α → W → Prop} {E E' : ε → W → Prop}

theorem Sat.mono {p : Prog Op Res ε α} {w : W} (h : Sat m Q E p w)
    (hQ : ∀ a w, Q a w → Q' a w) (hE : ∀ e w, E e w → E' e w) : Sat m Q' E' p w := by
  induction p generalizing w with
  | ret a => exact fun w' hw => hQ a w' (h w' hw)
  | throw e => exact fun w' hw => hE e w' (h w' hw)
  | op o k ih =>
      intro w' hw
      refine ⟨(h w' hw).1, fun r w'' hs => ?_⟩
      obtain ⟨hi, hk⟩ := (h w' hw).2 r w'' hs
      exact ⟨hi, ih r hk⟩

/-- Interference before a program can be absorbed into its first `rely`. -/
theorem Sat.of_rely (htrans : ∀ a b c, m.rely a b → m.rely b c → m.rely a c)
    {p : Prog Op Res ε α} {w w' : W} (h : Sat m Q E p w) (hw : m.rely w w') :
    Sat m Q E p w' := by
  cases p with
  | ret a => exact fun w'' hw' => h w'' (htrans _ _ _ hw hw')
  | throw e => exact fun w'' hw' => h w'' (htrans _ _ _ hw hw')
  | op o k => exact fun w'' hw' => h w'' (htrans _ _ _ hw hw')

/-- Sequencing: the postcondition of the first part is the precondition of the
second. -/
theorem Sat.bind (hrefl : ∀ a, m.rely a a) {p : Prog Op Res ε α} {f : α → Prog Op Res ε β}
    {R : β → W → Prop} {w : W} (h : Sat m Q E p w)
    (hf : ∀ a w, Q a w → Sat m R E (f a) w) : Sat m R E (p >>= f) w := by
  induction p generalizing w with
  | ret a => exact hf a w (h w (hrefl w))
  | throw e => exact h
  | op o k ih =>
      intro w' hw
      refine ⟨(h w' hw).1, fun r w'' hs => ?_⟩
      obtain ⟨hi, hk⟩ := (h w' hw).2 r w'' hs
      exact ⟨hi, ih r hk⟩

/-- Changing what a program returns changes the postcondition of its answers and nothing else. -/
theorem Sat.map {f : α → β} {R : β → W → Prop} {p : Prog Op Res ε α} {w : W}
    (h : Sat m (fun a w => R (f a) w) E p w) : Sat m R E (p >>= fun a => .ret (f a)) w := by
  induction p generalizing w with
  | ret a => exact h
  | throw e => exact h
  | op o k ih =>
      intro w' hw
      refine ⟨(h w' hw).1, fun r w'' hs => ?_⟩
      obtain ⟨hi, hk⟩ := (h w' hw).2 r w'' hs
      exact ⟨hi, ih r hk⟩

/-- `try`: both ends of the program become values, so that its two postconditions become the one
of the values. -/
theorem Sat.attempt {p : Prog Op Res ε α} {F : ε' → W → Prop} {w : W} (h : Sat m Q E p w) :
    Sat m (fun x w => match x with | .ok a => Q a w | .error e => E e w) F
      (p.attempt : Prog Op Res ε' (Except ε α)) w := by
  induction p generalizing w with
  | ret a => exact h
  | throw e => exact h
  | op o k ih =>
      intro w' hw
      refine ⟨(h w' hw).1, fun r w'' hs => ?_⟩
      obtain ⟨hi, hk⟩ := (h w' hw).2 r w'' hs
      exact ⟨hi, ih r hk⟩

/-- The world of a program that runs alone: nothing moves between operations, and
any operation may be asked for. -/
def World.alone (step : (o : Op) → W → Res o → W → Prop) (inv : W → Prop) : World Op Res W :=
  ⟨step, Eq, inv, fun _ _ => True⟩

section Alone

variable {step : (o : Op) → W → Res o → W → Prop} {inv : W → Prop}

@[simp] theorem sat_alone_ret (a : α) (w : W) :
    Sat (World.alone step inv) Q E (.ret a) w ↔ Q a w := by
  simp [Sat, World.alone]

@[simp] theorem sat_alone_throw (e : ε) (w : W) :
    Sat (World.alone step inv) Q E (.throw e : Prog Op Res ε α) w ↔ E e w := by
  simp [Sat, World.alone]

@[simp] theorem sat_alone_op (o : Op) (k : Res o → Prog Op Res ε α) (w : W) :
    Sat (World.alone step inv) Q E (.op o k) w ↔
      ∀ r w', step o w r w' → inv w' ∧ Sat (World.alone step inv) Q E (k r) w' := by
  simp [Sat, World.alone]

end Alone

/-! ### Runs against fixed answers -/

/-- The operations a run performs and how it ends, when the environment answers
each operation by a fixed function. -/
def trace (answer : (o : Op) → Res o) : Prog Op Res ε α → List Op × Except ε α
  | .ret a => ([], .ok a)
  | .throw e => ([], .error e)
  | .op o k => (o :: (trace answer (k (answer o))).1, (trace answer (k (answer o))).2)

theorem trace_bind (answer : (o : Op) → Res o) (p : Prog Op Res ε α)
    (f : α → Prog Op Res ε β) :
    trace answer (p >>= f) =
      match trace answer p with
      | (os, .ok a) => (os ++ (trace answer (f a)).1, (trace answer (f a)).2)
      | (os, .error e) => (os, .error e) := by
  induction p with
  | ret a => rfl
  | throw e => rfl
  | op o k ih =>
      simp only [op_bind, trace, ih]
      rcases trace answer (k (answer o)) with ⟨os, a | e⟩ <;> rfl

end Prog

/-! ### The outer loop of a process

A worker polls, handles what it got, and polls again, and it can be killed anywhere between. An
invariant of such a process is weaker while a program runs than between two of them:
`invariant_of_idle` asks for the strong one at each start, and gives the weak one in every
reachable world. -/

open Prog in
/-- A process that repeatedly starts a program and runs it to its end, with what
happens to the world when a program starts, ends, throws or is cut off. -/
structure Driver (Op : Type) (Res : Op → Type) (ε α W : Type) where
  step : (o : Op) → W → Res o → W → Prop
  starts : W → Prog Op Res ε α → W → Prop
  ends : α → W → W → Prop
  throws : ε → W → W → Prop
  crashes : W → W → Prop

namespace Driver

open Prog

variable {Op : Type} {Res : Op → Type} {ε α W : Type} (d : Driver Op Res ε α W)

/-- The program being run, if any, and the world. -/
abbrev State (Op : Type) (Res : Op → Type) (ε α W : Type) := Option (Prog Op Res ε α) × W

/-- One step of the process. -/
inductive Step : State Op Res ε α W → State Op Res ε α W → Prop
  | start {w w' p} : d.starts w p w' → Step (none, w) (some p, w')
  | run {o k w r w'} : d.step o w r w' → Step (some (.op o k), w) (some (k r), w')
  | finish {a w w'} : d.ends a w w' → Step (some (.ret a), w) (none, w')
  | fail {e w w'} : d.throws e w w' → Step (some (.throw e), w) (none, w')
  | crash {c w w'} : d.crashes w w' → Step (c, w) (none, w')

/-- Reachability by any number of steps. -/
abbrev Reaches : State Op Res ε α W → State Op Res ε α W → Prop :=
  Relation.ReflTransGen d.Step

/-- An invariant of a process with a stronger one between two programs: `idle` holds
where no program runs, `inv` in every reachable world, wherever a program was cut off. -/
theorem invariant_of_idle {idle inv : W → Prop} {Q : α → W → Prop} {E : ε → W → Prop}
    (hidle : ∀ w, idle w → inv w)
    (hstart : ∀ w p w', idle w → d.starts w p w' →
      inv w' ∧ Sat (World.alone d.step inv) Q E p w')
    (hend : ∀ a w w', inv w → Q a w → d.ends a w w' → idle w')
    (hthrow : ∀ e w w', inv w → E e w → d.throws e w w' → idle w')
    (hcrash : ∀ w w', inv w → d.crashes w w' → idle w')
    {w₀ : W} (h₀ : idle w₀) {c : Option (Prog Op Res ε α)} {w : W}
    (hreach : d.Reaches (none, w₀) (c, w)) : inv w := by
  -- what is left of a running program keeps its own postconditions
  have key : ∀ s : State Op Res ε α W, d.Reaches (none, w₀) s →
      inv s.2 ∧ (s.1 = none → idle s.2) ∧
        ∀ p, s.1 = some p → Sat (World.alone d.step inv) Q E p s.2 := by
    intro s hs
    induction hs with
    | refl => exact ⟨hidle _ h₀, fun _ => h₀, by simp⟩
    | tail _ hstep ih =>
        obtain ⟨hi, hn, hc⟩ := ih
        cases hstep with
        | start h =>
            obtain ⟨hi', hp⟩ := hstart _ _ _ (hn rfl) h
            exact ⟨hi', by simp, fun p hp' => by cases hp'; exact hp⟩
        | run h =>
            have := hc _ rfl
            rw [sat_alone_op] at this
            obtain ⟨hi', hk⟩ := this _ _ h
            exact ⟨hi', by simp, fun p hp' => by cases hp'; exact hk⟩
        -- between two programs the stronger invariant is there again
        | finish h =>
            have := hc _ rfl
            rw [sat_alone_ret] at this
            have hw := hend _ _ _ hi this h
            exact ⟨hidle _ hw, fun _ => hw, by simp⟩
        | fail h =>
            have := hc _ rfl
            rw [sat_alone_throw] at this
            have hw := hthrow _ _ _ hi this h
            exact ⟨hidle _ hw, fun _ => hw, by simp⟩
        | crash h =>
            have hw := hcrash _ _ hi h
            exact ⟨hidle _ hw, fun _ => hw, by simp⟩
  exact (key (c, w) hreach).1

end Driver

end EventPipeline.Concurrency
