import EventPipeline.Concurrency.Program

/-!
# EventPipeline.Concurrency.Runs

What a program did, as the list of its operations and their answers.

`Prog.Runs p log out` is the big-step meaning of a program under any answers: `log` is
what it asked for and was answered, `out` how it ended. An inversion lemma for sequencing
takes a run of `p >>= f` apart. `Prog.transcript` is the run against an environment that
chooses each answer by what it has seen so far; since it is a function, every program ends
whatever its environment does.
-/

namespace EventPipeline.Concurrency

namespace Prog

variable {Op : Type} {Res : Op → Type} {ε ε' α β : Type}

/-- An operation and the answer it got. -/
abbrev Event (Op : Type) (Res : Op → Type) := (o : Op) × Res o

/-- `p` can end in `out` after the events of `log`. -/
inductive Runs : Prog Op Res ε α → List (Event Op Res) → Except ε α → Prop
  | ret (a : α) : Runs (.ret a) [] (.ok a)
  | throw (e : ε) : Runs (.throw e) [] (.error e)
  | op {o : Op} {k : Res o → Prog Op Res ε α} (r : Res o) {log : List (Event Op Res)}
      {out : Except ε α} : Runs (k r) log out → Runs (.op o k) (⟨o, r⟩ :: log) out

variable {log : List (Event Op Res)}

@[simp] theorem runs_ret_iff {a : α} {out : Except ε α} :
    Runs (.ret a : Prog Op Res ε α) log out ↔ log = [] ∧ out = .ok a := by
  constructor
  · intro h
    cases h
    exact ⟨rfl, rfl⟩
  · intro h
    obtain ⟨rfl, rfl⟩ := h
    exact .ret a

@[simp] theorem runs_throw_iff {e : ε} {out : Except ε α} :
    Runs (.throw e : Prog Op Res ε α) log out ↔ log = [] ∧ out = .error e := by
  constructor
  · intro h
    cases h
    exact ⟨rfl, rfl⟩
  · intro h
    obtain ⟨rfl, rfl⟩ := h
    exact .throw e

@[simp] theorem runs_op_iff {o : Op} {k : Res o → Prog Op Res ε α} {out : Except ε α} :
    Runs (.op o k) log out ↔ ∃ r rest, log = ⟨o, r⟩ :: rest ∧ Runs (k r) rest out := by
  constructor
  · intro h
    cases h with
    | op r h => exact ⟨r, _, rfl, h⟩
  · intro h
    obtain ⟨r, rest, rfl, h⟩ := h
    exact .op r h

theorem Runs.call_cases {o : Op} {f : Res o → Prog Op Res ε β} {out : Except ε β}
    (h : Runs (call o >>= f) log out) : ∃ r rest, log = ⟨o, r⟩ :: rest ∧ Runs (f r) rest out :=
  runs_op_iff.mp h

/-- A run of a sequence stops in its first part, or passes through it. -/
theorem Runs.bind_cases {p : Prog Op Res ε α} {f : α → Prog Op Res ε β} {out : Except ε β}
    (h : Runs (p >>= f) log out) :
    (∃ e, out = .error e ∧ Runs p log (.error e)) ∨
    ∃ a before after, Runs p before (.ok a) ∧ Runs (f a) after out ∧ log = before ++ after := by
  induction p generalizing log with
  | ret a => exact .inr ⟨a, [], log, .ret a, h, rfl⟩
  | throw e =>
      rw [throw_bind, runs_throw_iff] at h
      obtain ⟨rfl, rfl⟩ := h
      exact .inl ⟨e, rfl, .throw e⟩
  | op o k ih =>
      rw [op_bind, runs_op_iff] at h
      obtain ⟨r, rest, rfl, h⟩ := h
      obtain ⟨e, he, hp⟩ | ⟨a, before, after, hp, hf, rfl⟩ := ih r h
      · exact .inl ⟨e, he, .op r hp⟩
      · exact .inr ⟨a, ⟨o, r⟩ :: before, after, .op r hp, hf, rfl⟩

/-- A run of `try` is a run of its body. -/
theorem Runs.attempt_cases {p : Prog Op Res ε α} {out : Except ε' (Except ε α)}
    (h : Runs p.attempt log out) : ∃ inner, out = .ok inner ∧ Runs p log inner := by
  induction p generalizing log with
  | ret a =>
      rw [attempt, runs_ret_iff] at h
      obtain ⟨rfl, rfl⟩ := h
      exact ⟨.ok a, rfl, .ret a⟩
  | throw e =>
      rw [attempt, runs_ret_iff] at h
      obtain ⟨rfl, rfl⟩ := h
      exact ⟨.error e, rfl, .throw e⟩
  | op o k ih =>
      rw [attempt, runs_op_iff] at h
      obtain ⟨r, rest, rfl, h⟩ := h
      obtain ⟨inner, ho, hp⟩ := ih r h
      exact ⟨inner, ho, .op r hp⟩

/-- A change of what the body of a `try` returns. -/
theorem attempt_map (p : Prog Op Res ε α) (f : α → β) :
    ((p >>= fun a => .ret (f a)).attempt : Prog Op Res ε' (Except ε β)) =
      p.attempt >>= fun x => .ret (x.map f) := by
  induction p with
  | ret a => rfl
  | throw e => rfl
  | op o k ih => exact congrArg (Prog.op o) (funext ih)

/-! ### The operations a program may ask for

A bound on what a program does that needs no answer: `Only` is read off the text, and carries over
to the log of every run. -/

/-- Whatever it is answered, the program asks only for operations in `P`. -/
def Only (P : Op → Prop) : Prog Op Res ε α → Prop
  | .ret _ => True
  | .throw _ => True
  | .op o k => P o ∧ ∀ r, Only P (k r)

theorem Only.bind {P : Op → Prop} {p : Prog Op Res ε α} {f : α → Prog Op Res ε β}
    (hp : Only P p) (hf : ∀ a, Only P (f a)) : Only P (p >>= f) := by
  induction p with
  | ret a => exact hf a
  | throw e => trivial
  | op o k ih => exact ⟨hp.1, fun r => ih r (hp.2 r)⟩

theorem Only.call_bind {P : Op → Prop} {o : Op} {f : Res o → Prog Op Res ε β}
    (ho : P o) (hf : ∀ r, Only P (f r)) : Only P (call o >>= f) :=
  ⟨ho, hf⟩

theorem Only.ofExcept {P : Op → Prop} (x : Except ε α) :
    Only P (.ofExcept x : Prog Op Res ε α) := by
  cases x <;> trivial

theorem Runs.only {P : Op → Prop} {p : Prog Op Res ε α} {out : Except ε α}
    (h : Runs p log out) (hp : Only P p) : ∀ event ∈ log, P event.1 := by
  induction h with
  | ret a => simp
  | throw e => simp
  | op r _ ih =>
      intro event hevent
      rcases List.mem_cons.mp hevent with rfl | hevent
      · exact hp.1
      · exact ih (hp.2 r) event hevent

/-- What every operation that a program may ask for keeps, the program keeps. -/
theorem Only.sat {W : Type} {step : (o : Op) → W → Res o → W → Prop} {inv I : W → Prop}
    {P : Op → Prop} {p : Prog Op Res ε α} {w : W} (hp : Only P p)
    (hstep : ∀ o w r w', P o → I w → step o w r w' → I w') (hinv : ∀ w, I w → inv w) (hw : I w) :
    Sat (World.alone step inv) (fun _ => I) (fun _ => I) p w := by
  induction p generalizing w with
  | ret a => exact (sat_alone_ret a w).mpr hw
  | throw e => exact (sat_alone_throw e w).mpr hw
  | op o k ih =>
      refine (sat_alone_op o k w).mpr fun r w' hs => ?_
      have hw' := hstep o w r w' hp.1 hw hs
      exact ⟨hinv w' hw', ih r (hp.2 r) hw'⟩

/-! ### Environments

An environment that answers by what it has seen so far is a function, so that a program has
exactly one run against it. This is what a witness evaluates. -/

/-- The run of a program against an environment that answers by what it has seen. -/
def transcript (answer : List (Event Op Res) → (o : Op) → Res o) (seen : List (Event Op Res)) :
    Prog Op Res ε α → List (Event Op Res) × Except ε α
  | .ret a => ([], .ok a)
  | .throw e => ([], .error e)
  | .op o k =>
      let r := answer seen o
      let rest := transcript answer (seen ++ [⟨o, r⟩]) (k r)
      (⟨o, r⟩ :: rest.1, rest.2)

/-- A transcript is a run. -/
theorem runs_transcript (answer : List (Event Op Res) → (o : Op) → Res o)
    (seen : List (Event Op Res)) (p : Prog Op Res ε α) :
    Runs p (transcript answer seen p).1 (transcript answer seen p).2 := by
  induction p generalizing seen with
  | ret a => exact .ret a
  | throw e => exact .throw e
  | op o k ih => exact .op (answer seen o) (ih (answer seen o) _)

/-- The run of a program against an environment that answers by its state and changes it. -/
def runAgainst {W : Type} (serve : (o : Op) → W → Res o × W) : Prog Op Res ε α → W → Except ε α × W
  | .ret a, w => (.ok a, w)
  | .throw e, w => (.error e, w)
  | .op o k, w => runAgainst serve (k (serve o w).1) (serve o w).2

section Execute

variable {W : Type} {serve : (o : Op) → W → Res o × W}

@[simp] theorem runAgainst_ret (a : α) (w : W) :
    runAgainst serve (.ret a : Prog Op Res ε α) w = (.ok a, w) := rfl

@[simp] theorem runAgainst_throw (e : ε) (w : W) :
    runAgainst serve (.throw e : Prog Op Res ε α) w = (.error e, w) := rfl

theorem runAgainst_op (o : Op) (k : Res o → Prog Op Res ε α) (w : W) :
    runAgainst serve (.op o k) w = runAgainst serve (k (serve o w).1) (serve o w).2 := rfl

theorem runAgainst_bind (p : Prog Op Res ε α) (f : α → Prog Op Res ε β) (w : W) :
    runAgainst serve (p >>= f) w =
      match runAgainst serve p w with
      | (.ok a, w') => runAgainst serve (f a) w'
      | (.error e, w') => (.error e, w') := by
  induction p generalizing w with
  | ret a => rfl
  | throw e => rfl
  | op o k ih => exact ih (serve o w).1 (serve o w).2

theorem runAgainst_attempt (p : Prog Op Res ε α) (w : W) :
    runAgainst serve (p.attempt : Prog Op Res ε' (Except ε α)) w =
      (.ok (runAgainst serve p w).1, (runAgainst serve p w).2) := by
  induction p generalizing w with
  | ret a => rfl
  | throw e => rfl
  | op o k ih => exact ih (serve o w).1 (serve o w).2

end Execute

end Prog

end EventPipeline.Concurrency
