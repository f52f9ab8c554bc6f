import EventPipeline.Concurrency.Runs
import EventPipeline.OpsAgent.DiagnosisAgent

/-!
# EventPipeline.Guarantees.Diagnosis

A diagnosis stays within its budgets, and cites what it has seen.

`runDiagnosis` is run against a model that chooses every answer by what it has seen: tool
calls of any name, decisions of any content, exceptions, at every request. The proof follows
the loop. `PassRun` says what one pass may do, `runs_diagnosisPass` derives it from the code,
and `LoopRun` follows by induction on the calls that are left. The repair comes after the
loop, has no tools, and is validated like the decision it replaces.
-/

namespace EventPipeline.Guarantees

open EventPipeline.Python EventPipeline.OpsAgent EventPipeline.Concurrency
open EventPipeline.Concurrency.Prog

/-- What a diagnosis asked for and was answered. -/
abbrev DiagnosisLog := List (Event DiagnosisOp DiagnosisOp.Res)

namespace Diagnosis

/-! ### What a log says

A log is the list of what a diagnosis asked for and was answered. The budgets are about four
readings of it, each of them a function from logs to lists or numbers that distributes over the
pieces of a log. -/

/-- The number of requests to the model client. -/
def clientCalls (log : DiagnosisLog) : Nat :=
  log.countP fun event => match event.1 with
    | .create _ => true
    | _ => false

/-- The tools whose handlers were called, in order. -/
def observed (log : DiagnosisLog) : List PyStr :=
  log.filterMap fun event => match event.1 with
    | .observe tool_id => some tool_id
    | _ => none

/-- What `execute` made of the answer of a handler. -/
def executedEvent (rt : DiagnosisRuntime) (registry : DiagnosisToolRegistry) :
    Event DiagnosisOp DiagnosisOp.Res → Option DiagnosisEvidence
  | ⟨.observe tool_id, reading⟩ => (reading.bind (toolEvidence rt registry tool_id)).toOption
  | _ => none

/-- The evidence of the tools that were executed, in order. -/
def executed (rt : DiagnosisRuntime) (registry : DiagnosisToolRegistry) (log : DiagnosisLog) :
    List DiagnosisEvidence :=
  log.filterMap (executedEvent rt registry)

/-- The id of the response of the model client, where it gave one. -/
def answeredEvent : Event DiagnosisOp DiagnosisOp.Res → Option PyStr
  | ⟨.create _, .ok response⟩ => some response.response_id
  | _ => none

/-- The ids of the responses of the model client, in order. -/
def answered (log : DiagnosisLog) : List PyStr :=
  log.filterMap answeredEvent

section Logs

variable {rt : DiagnosisRuntime} {registry : DiagnosisToolRegistry} {log log' : DiagnosisLog}

@[simp] theorem clientCalls_nil : clientCalls [] = 0 := rfl

@[simp] theorem clientCalls_append :
    clientCalls (log ++ log') = clientCalls log + clientCalls log' :=
  List.countP_append

@[simp] theorem clientCalls_create {payload : ModelRequest} {r : Except PyStr ModelResponse} :
    clientCalls (⟨.create payload, r⟩ :: log) = clientCalls log + 1 := by
  simp [clientCalls]

@[simp] theorem clientCalls_now {time : Aware} :
    clientCalls (⟨.now, time⟩ :: log) = clientCalls log := by
  simp [clientCalls]

@[simp] theorem clientCalls_observe {tool_id : PyStr} {r : Except OpsExc ToolReading} :
    clientCalls (⟨.observe tool_id, r⟩ :: log) = clientCalls log := by
  simp [clientCalls]

@[simp] theorem observed_nil : observed [] = [] := rfl

@[simp] theorem observed_append : observed (log ++ log') = observed log ++ observed log' :=
  List.filterMap_append

@[simp] theorem observed_create {payload : ModelRequest} {r : Except PyStr ModelResponse} :
    observed (⟨.create payload, r⟩ :: log) = observed log := rfl

@[simp] theorem observed_now {time : Aware} : observed (⟨.now, time⟩ :: log) = observed log := rfl

@[simp] theorem observed_observe {tool_id : PyStr} {r : Except OpsExc ToolReading} :
    observed (⟨.observe tool_id, r⟩ :: log) = tool_id :: observed log := rfl

@[simp] theorem executed_nil : executed rt registry [] = [] := rfl

@[simp] theorem executed_append :
    executed rt registry (log ++ log') = executed rt registry log ++ executed rt registry log' :=
  List.filterMap_append

@[simp] theorem executed_create {payload : ModelRequest} {r : Except PyStr ModelResponse} :
    executed rt registry (⟨.create payload, r⟩ :: log) = executed rt registry log := rfl

@[simp] theorem executed_now {time : Aware} :
    executed rt registry (⟨.now, time⟩ :: log) = executed rt registry log := rfl

@[simp] theorem answered_nil : answered [] = [] := rfl

@[simp] theorem answered_append : answered (log ++ log') = answered log ++ answered log' :=
  List.filterMap_append

@[simp] theorem answered_create {payload : ModelRequest} {response : ModelResponse} :
    answered (⟨.create payload, .ok response⟩ :: log) = response.response_id :: answered log := rfl

@[simp] theorem answered_now {time : Aware} : answered (⟨.now, time⟩ :: log) = answered log := rfl

@[simp] theorem answered_observe {tool_id : PyStr} {r : Except OpsExc ToolReading} :
    answered (⟨.observe tool_id, r⟩ :: log) = answered log := rfl

theorem executed_observe_ok {tool_id : PyStr} {r : Except OpsExc ToolReading}
    {evidence : DiagnosisEvidence}
    (h : r.bind (toolEvidence rt registry tool_id) = .ok evidence) :
    executed rt registry (⟨.observe tool_id, r⟩ :: log) =
      evidence :: executed rt registry log := by
  simp only [executed, List.filterMap_cons, executedEvent, h, Except.toOption]

theorem executed_observe_error {tool_id : PyStr} {r : Except OpsExc ToolReading} {e : OpsExc}
    (h : r.bind (toolEvidence rt registry tool_id) = .error e) :
    executed rt registry (⟨.observe tool_id, r⟩ :: log) = executed rt registry log := by
  simp only [executed, List.filterMap_cons, executedEvent, h, Except.toOption]

end Logs

/-! ### The parts of a run -/

theorem runs_fromOps {α : Type} {x : Except OpsExc α} {log : DiagnosisLog}
    {out : Except DiagnosisExc α} (h : Runs (fromOps x) log out) :
    log = [] ∧ ((∃ a, x = .ok a ∧ out = .ok a) ∨ ∃ e, x = .error e ∧ out = .error (.ops e)) := by
  cases x with
  | ok a =>
      obtain ⟨rfl, rfl⟩ := runs_ret_iff.mp h
      exact ⟨rfl, .inl ⟨a, rfl, rfl⟩⟩
  | error e =>
      obtain ⟨rfl, rfl⟩ := runs_throw_iff.mp h
      exact ⟨rfl, .inr ⟨e, rfl, rfl⟩⟩

/-- A run that begins with a computation of the agent. -/
theorem runs_fromOps_bind {α β : Type} {x : Except OpsExc α} {f : α → Diagnosing β}
    {log : DiagnosisLog} {out : Except DiagnosisExc β} (h : Runs (fromOps x >>= f) log out) :
    (∃ e, x = .error e ∧ log = [] ∧ out = .error (.ops e)) ∨
    ∃ a, x = .ok a ∧ Runs (f a) log out := by
  cases x with
  | ok a => exact .inr ⟨a, rfl, h⟩
  | error e =>
      obtain ⟨rfl, rfl⟩ := runs_throw_iff.mp h
      exact .inl ⟨e, rfl, rfl, rfl⟩

/-- One request, and no tool: the log of `askModel`, whatever the client answers. -/
structure OneRequest (log : DiagnosisLog) : Prop where
  calls : clientCalls log = 1
  tools : observed log = []
  none_executed : ∀ rt registry, executed rt registry log = []

theorem oneRequest_create (payload : ModelRequest) (r : Except PyStr ModelResponse) :
    OneRequest [⟨.create payload, r⟩] :=
  ⟨by simp, rfl, fun _ _ => rfl⟩

/-- A request leaves the steps, the evidence and the history as they are, and adds the id of the
response. -/
theorem runs_askModel {setting : DiagnosisSetting} {state : DiagnosisState}
    {history : List HistoryItem} {tools : List ToolSpec} {log : DiagnosisLog}
    {out : Except DiagnosisExc (ModelResponse × DiagnosisState)}
    (h : Runs (askModel setting state history tools) log out) :
    OneRequest log ∧ ((∃ e, out = .error e) ∨ ∃ response, out = .ok (response,
      { state with
        response_ids := state.response_ids ++ [response.response_id]
        usage := state.usage.add response }) ∧ answered log = [response.response_id]) := by
  unfold askModel at h
  obtain ⟨e, rfl, hcreate⟩ | ⟨response, before, after, hcreate, hrest, rfl⟩ := Runs.bind_cases h
  · obtain ⟨r, rest, rfl, hr⟩ := Runs.call_cases hcreate
    cases r with
    | ok response => cases hr
    | error name =>
        obtain ⟨rfl, -⟩ := runs_throw_iff.mp hr
        exact ⟨oneRequest_create _ _, .inl ⟨e, rfl⟩⟩
  · obtain ⟨r, rest, rfl, hr⟩ := Runs.call_cases hcreate
    cases r with
    | error name => cases hr
    | ok answer =>
        obtain ⟨rfl, hok⟩ := runs_ret_iff.mp hr
        cases hok
        obtain ⟨e, -, rfl, rfl⟩ | ⟨_, -, hret⟩ := runs_fromOps_bind hrest
        · exact ⟨oneRequest_create _ _, .inl ⟨_, rfl⟩⟩
        · obtain ⟨rfl, rfl⟩ := runs_ret_iff.mp hret
          exact ⟨oneRequest_create _ _, .inr ⟨response, rfl, rfl⟩⟩

/-- The evidence of a tool names the tool, and its id starts with it. -/
theorem toolEvidence_ok {rt : DiagnosisRuntime} {registry : DiagnosisToolRegistry}
    {tool_id : PyStr} {reading : ToolReading} {evidence : DiagnosisEvidence}
    (h : toolEvidence rt registry tool_id reading = .ok evidence) :
    evidence.tool_id = tool_id ∧ ∃ digest, evidence.evidence_id =
      diagnosisEvidenceId tool_id digest := by
  unfold toolEvidence at h
  obtain ⟨selected, -, h⟩ := OpsAgent.bind_ok.mp h
  obtain ⟨references, -, h⟩ := OpsAgent.bind_ok.mp h
  dsimp only at h
  split at h
  · cases h
  · obtain ⟨_, -, h⟩ := OpsAgent.bind_ok.mp h
    cases h
    exact ⟨rfl, _, rfl⟩

/-- A tool the registry would run: it is in the list, and was not called before. -/
structure Fresh (called : List PyStr) (tool_id : PyStr) : Prop where
  allowlisted : (toolById tool_id).isSome = true
  not_called : tool_id ∉ called

/-- The handler of a tool is called at most once, and only for a fresh tool. -/
theorem runs_execute {rt : DiagnosisRuntime} {registry : DiagnosisToolRegistry}
    {called : List PyStr} {tool_id : PyStr} {log : DiagnosisLog}
    {out : Except DiagnosisExc DiagnosisEvidence}
    (h : Runs (registry.execute rt called tool_id) log out) :
    (log = [] ∧ ∃ e, out = .error e) ∨
    (Fresh called tool_id ∧ ∃ r, log = [⟨.observe tool_id, r⟩] ∧
      ((∃ e, r.bind (toolEvidence rt registry tool_id) = .error e ∧ ∃ e', out = .error e') ∨
        ∃ evidence, r.bind (toolEvidence rt registry tool_id) = .ok evidence ∧
          out = .ok evidence)) := by
  unfold DiagnosisToolRegistry.execute at h
  obtain ⟨e, -, rfl, rfl⟩ | ⟨_, hallow, hrest⟩ := runs_fromOps_bind h
  · exact .inl ⟨rfl, _, rfl⟩
  obtain ⟨e, -, rfl, rfl⟩ | ⟨_, hcalled, hcall⟩ := runs_fromOps_bind hrest
  · exact .inl ⟨rfl, _, rfl⟩
  obtain ⟨r, rest, rfl, hreading⟩ := Runs.call_cases hcall
  obtain ⟨rfl, ⟨evidence, hr, rfl⟩ | ⟨e, hr, rfl⟩⟩ := runs_fromOps hreading
  · exact .inr ⟨⟨ensure_eq_ok.mp hallow, ensure_eq_ok.mp hcalled⟩, r, rfl, .inr ⟨evidence, hr, rfl⟩⟩
  · exact .inr ⟨⟨ensure_eq_ok.mp hallow, ensure_eq_ok.mp hcalled⟩, r, rfl, .inl ⟨e, hr, _, rfl⟩⟩

/-! ### One pass of the loop

A pass asks the model once. It may then call the handler of one tool that has not been called
before, and it ends by raising, by leaving the loop, or with the step recorded. -/

/-- One request, and at most one handler called, of a fresh tool and where a call is left. -/
structure Attempt (again : NextPass) (state : DiagnosisState) (log : DiagnosisLog) : Prop where
  calls : clientCalls log = 1
  tools : observed log = [] ∨ ∃ tool_id, observed log = [tool_id] ∧ Fresh state.called tool_id ∧
    again.isSome = true

/-- Why a pass may leave the loop with an exhausted budget. -/
def NoBudget (setting : DiagnosisSetting) (again : NextPass) (state : DiagnosisState) : Prop :=
  again = none ∨ setting.policy.max_steps ≤ state.steps.length ∨ functionTools state.called = []

/-- The one response in a log is counted: its id is appended to the ids of the state, and the
number of requests goes up by one. -/
structure AskedOnce (state : DiagnosisState) (log : DiagnosisLog) (state' : DiagnosisState) :
    Prop where
  answers : state'.response_ids = state.response_ids ++ answered log
  response_ids : state'.response_ids.length = state.response_ids.length + 1
  requests : state'.usage.api_requests = state.usage.api_requests + 1

/-- The step of a tool and its evidence are recorded. The step is numbered by its place in the
trace and returns the one evidence id, which is the tool's name with a digest. -/
structure Recorded (state : DiagnosisState) (log : DiagnosisLog) (tool_id : PyStr)
    (item : DiagnosisEvidence) (state' : DiagnosisState) : Prop where
  asked : AskedOnce state log state'
  steps : ∃ step : DiagnosisStep, state'.steps = state.steps ++ [step] ∧
    step.tool_id = tool_id ∧ step.returned_evidence_ids = [item.evidence_id] ∧
      step.step = state.steps.length + 1
  evidence : state'.evidence = state.evidence ++ [item]
  tool : item.tool_id = tool_id
  id : ∃ digest, item.evidence_id = diagnosisEvidenceId tool_id digest

/-- What one pass of the loop may do: raise, leave the loop, or execute a tool and go on. -/
inductive PassRun (rt : DiagnosisRuntime) (setting : DiagnosisSetting) (again : NextPass)
    (state : DiagnosisState) :
    DiagnosisLog → Except DiagnosisExc (LoopExit × DiagnosisState) → Prop
  | raised {log : DiagnosisLog} {e : DiagnosisExc} (attempt : Attempt again state log) :
      PassRun rt setting again state log (.error e)
  | left {log : DiagnosisLog} {exit : LoopExit} {state' : DiagnosisState}
      (attempt : Attempt again state log)
      (none_executed : executed rt setting.registry log = [])
      (asked : AskedOnce state log state')
      (steps : state'.steps = state.steps) (evidence : state'.evidence = state.evidence)
      (budget : exit = .budgetExhausted → NoBudget setting again state) :
      PassRun rt setting again state log (.ok (exit, state'))
  | executed {before after : DiagnosisLog} {tool_id : PyStr} {evidence : DiagnosisEvidence}
      {next : DiagnosisState → Diagnosing (LoopExit × DiagnosisState)} {state' : DiagnosisState}
      {out : Except DiagnosisExc (LoopExit × DiagnosisState)} (some_call : again = some next)
      (calls : clientCalls before = 1) (tool : observed before = [tool_id])
      (fresh : Fresh state.called tool_id)
      (evidence_eq : executed rt setting.registry before = [evidence])
      (recorded : Recorded state before tool_id evidence state') (rest : Runs (next state') after out) :
      PassRun rt setting again state (before ++ after) out

theorem OneRequest.attempt {again : NextPass} {state : DiagnosisState} {log : DiagnosisLog}
    (h : OneRequest log) : Attempt again state log :=
  ⟨h.calls, .inl h.tools⟩

/-- The clock and the handlers of the tools answer nothing that is counted. -/
theorem AskedOnce.later {state state' : DiagnosisState} {log log' : DiagnosisLog}
    (h : AskedOnce state log state') (hlog : answered log' = []) :
    AskedOnce state (log ++ log') state' :=
  ⟨by rw [answered_append, hlog, List.append_nil, h.answers], h.response_ids, h.requests⟩

/-- The part of a pass that serves a function call, after the request `before`. -/
theorem runs_serveCall {rt : DiagnosisRuntime} {setting : DiagnosisSetting} {again : NextPass}
    {tools : List ToolSpec} {response : ModelResponse} {call : Dict}
    {state asked : DiagnosisState} {before after : DiagnosisLog}
    {out : Except DiagnosisExc (LoopExit × DiagnosisState)} (hbefore : OneRequest before)
    (htools : tools = [] → NoBudget setting again state) (hasked : AskedOnce state before asked)
    (hsteps : asked.steps = state.steps) (hevidence : asked.evidence = state.evidence)
    (h : Runs (serveCall rt setting again tools response call asked) after out) :
    PassRun rt setting again state (before ++ after) out := by
  have hcalled : asked.called = state.called := by rw [DiagnosisState.called, hsteps]; rfl
  unfold serveCall at h
  cases again with
  | none =>
      obtain ⟨rfl, rfl⟩ := runs_ret_iff.mp h
      rw [List.append_nil]
      exact .left hbefore.attempt (hbefore.none_executed _ _) hasked hsteps hevidence
        fun _ => .inl rfl
  | some next =>
      dsimp only at h
      split at h
      · rename_i hbudget
        obtain ⟨rfl, rfl⟩ := runs_ret_iff.mp h
        rw [List.append_nil]
        refine .left hbefore.attempt (hbefore.none_executed _ _) hasked hsteps hevidence fun _ => ?_
        rcases hbudget with hmax | hempty
        · exact .inr (.inl (hsteps ▸ hmax))
        · exact htools hempty
      · obtain ⟨e, -, rfl, rfl⟩ | ⟨arguments, -, hrest⟩ := runs_fromOps_bind h
        · rw [List.append_nil]
          exact .raised hbefore.attempt
        obtain ⟨e, -, rfl, rfl⟩ | ⟨_, -, hnow⟩ := runs_fromOps_bind hrest
        · rw [List.append_nil]
          exact .raised hbefore.attempt
        obtain ⟨time, rest, rfl, hexecute⟩ := Runs.call_cases hnow
        generalize strOf rt.toOpsRuntime (itemField call "name" (.str [])) = tool_id at hexecute
        obtain ⟨e, -, hattempt⟩ | ⟨result, ran, final, hattempt, hresult, rfl⟩ :=
          Runs.bind_cases hexecute
        · obtain ⟨inner, habsurd, -⟩ := Runs.attempt_cases hattempt
          -- an attempt returns, with the failure as its value
          cases habsurd
        obtain ⟨inner, hinner, hran⟩ := Runs.attempt_cases hattempt
        cases hinner
        -- what `execute` did: refuse the tool, or call its handler once
        rcases runs_execute hran with ⟨rfl, e, rfl⟩ | ⟨hfresh, r, rfl, hr⟩
        · -- the registry refused the tool
          obtain ⟨rfl, rfl⟩ := runs_ret_iff.mp hresult
          exact .left ⟨by simp [hbefore.calls], .inl (by simp [hbefore.tools])⟩
            (by simp [hbefore.none_executed]) (hasked.later rfl) hsteps hevidence
            (fun hexit => by cases hexit)
        rw [hcalled] at hfresh
        rcases hr with ⟨e, hr, e', rfl⟩ | ⟨evidence, hr, rfl⟩
        · -- the handler raised
          obtain ⟨rfl, rfl⟩ := runs_ret_iff.mp hresult
          refine .left ⟨by simp [hbefore.calls], .inr ⟨_, ?_, hfresh, rfl⟩⟩ ?_ (hasked.later rfl) hsteps
            hevidence (fun hexit => by cases hexit)
          · simp [hbefore.tools]
          · simp [hbefore.none_executed, executed_observe_error hr]
        · obtain ⟨reading, rfl⟩ : ∃ reading, r = .ok reading := by
            cases r with
            | ok reading => exact ⟨reading, rfl⟩
            | error e => cases hr
          obtain ⟨htool, hid⟩ := toolEvidence_ok hr
          have hran' : executed rt setting.registry [⟨.observe tool_id, .ok reading⟩] =
              [evidence] := executed_observe_ok hr
          obtain ⟨e, -, rfl, rfl⟩ | ⟨output, -, hnext⟩ := runs_fromOps_bind hresult
          · refine .raised ⟨by simp [hbefore.calls], .inr ⟨_, ?_, hfresh, rfl⟩⟩
            simp [hbefore.tools]
          · -- the evidence is recorded, and the next pass goes on from there
            have hlog : PassRun rt setting (some next) state
                ((before ++ [⟨.now, time⟩, ⟨.observe tool_id, .ok reading⟩]) ++ final) out := by
              refine .executed rfl (by simp [hbefore.calls]) (by simp [hbefore.tools]) hfresh
                (by simp [hbefore.none_executed, hran']) ⟨?_, ?_, ?_, htool, hid⟩ hnext
              · have hlater := hasked.later
                  (show answered [⟨.now, time⟩, ⟨.observe tool_id, .ok reading⟩] = [] from rfl)
                exact ⟨hlater.answers, hlater.response_ids, hlater.requests⟩
              · exact ⟨_, by rw [hsteps], rfl, rfl, rfl⟩
              · rw [hevidence]
            simpa using hlog

theorem runs_diagnosisPass {rt : DiagnosisRuntime} {setting : DiagnosisSetting}
    {again : NextPass} {state : DiagnosisState} {log : DiagnosisLog}
    {out : Except DiagnosisExc (LoopExit × DiagnosisState)}
    (h : Runs (diagnosisPass rt setting again state) log out) :
    PassRun rt setting again state log out := by
  unfold diagnosisPass at h
  obtain ⟨e, rfl, hask⟩ | ⟨⟨response, asked⟩, before, after, hask, hrest, rfl⟩ :=
    Runs.bind_cases h
  · exact .raised (runs_askModel hask).1.attempt
  obtain ⟨hbefore, ⟨e, habsurd⟩ | ⟨answer, hanswer, hids⟩⟩ := runs_askModel hask
  · cases habsurd
  cases hanswer
  dsimp only at hrest
  split at hrest
  · -- the answer asks for a tool, cannot be read, or has a text: only the last two end the loop
    -- here
    refine runs_serveCall hbefore (fun hempty => ?_) ?_ ?_ ?_ hrest
    · cases again with
      | none => exact .inl rfl
      | some next => exact .inr (.inr hempty)
    · exact ⟨by rw [hids], List.length_append, rfl⟩
    · rfl
    · rfl
  · obtain ⟨rfl, ⟨_, habsurd, -⟩ | ⟨e, -, rfl⟩⟩ := runs_fromOps hrest
    · cases habsurd
    · rw [List.append_nil]
      exact .raised hbefore.attempt
  · split at hrest
    · obtain ⟨rfl, ⟨_, habsurd, -⟩ | ⟨e, -, rfl⟩⟩ := runs_fromOps hrest
      · cases habsurd
      · rw [List.append_nil]
        exact .raised hbefore.attempt
    · obtain ⟨rfl, ⟨_, habsurd, -⟩ | ⟨e, -, rfl⟩⟩ := runs_fromOps hrest
      · cases habsurd
      · rw [List.append_nil]
        exact .raised hbefore.attempt
    · split at hrest
      · obtain ⟨rfl, rfl⟩ := runs_ret_iff.mp hrest
        rw [List.append_nil]
        exact .left hbefore.attempt (hbefore.none_executed _ _)
          ⟨by rw [hids], List.length_append, rfl⟩ rfl rfl (fun hexit => by cases hexit)
      · obtain ⟨rfl, ⟨_, habsurd, -⟩ | ⟨e, -, rfl⟩⟩ := runs_fromOps hrest
        · cases habsurd
        · rw [List.append_nil]
          exact .raised hbefore.attempt

/-! ### The loop

Two invariants go with the state: its steps are the trace of its evidence (`Traced`), and the
responses of the log are those it has counted (`Counted`). The induction is on the tool calls that
are left. -/

/-- The steps of a state are the trace of its evidence: of distinct tools of the list, one
piece of evidence each. -/
structure Traced (state : DiagnosisState) : Prop where
  tools : state.called = state.evidence.map (·.tool_id)
  returned : state.steps.map (·.returned_evidence_ids) =
    state.evidence.map fun item => [item.evidence_id]
  numbered : state.steps.map (·.step) = oneTo state.steps.length
  unique : state.called.Nodup
  allowlisted : ∀ tool_id ∈ state.called, (toolById tool_id).isSome = true
  ids : ∀ item ∈ state.evidence, ∃ digest,
    item.evidence_id = diagnosisEvidenceId item.tool_id digest

theorem traced_firstState (input : DiagnosisInput) : Traced (firstState input) where
  tools := rfl
  returned := rfl
  numbered := rfl
  unique := List.nodup_nil
  allowlisted := by simp [firstState, DiagnosisState.called]
  ids := by simp [firstState]

theorem Traced.congr {state state' : DiagnosisState} (h : Traced state)
    (hsteps : state'.steps = state.steps) (hevidence : state'.evidence = state.evidence) :
    Traced state' := by
  have hcalled : state'.called = state.called := by rw [DiagnosisState.called, hsteps]; rfl
  exact ⟨by rw [hcalled, hevidence]; exact h.tools, by rw [hsteps, hevidence]; exact h.returned,
    by rw [hsteps]; exact h.numbered, by rw [hcalled]; exact h.unique,
    by rw [hcalled]; exact h.allowlisted,
    by rw [hevidence]; exact h.ids⟩

theorem Recorded.called_eq {state state' : DiagnosisState} {log : DiagnosisLog}
    {tool_id : PyStr} {item : DiagnosisEvidence} (h : Recorded state log tool_id item state') :
    state'.called = state.called ++ [tool_id] := by
  obtain ⟨step, hsteps, htool, -⟩ := h.steps
  simp [DiagnosisState.called, hsteps, htool]

/-- Recording a fresh tool keeps the trace. Every part of it grows by one entry at its end, and
since the tool is fresh, the names stay distinct. -/
theorem Traced.recorded {state state' : DiagnosisState} {log : DiagnosisLog} {tool_id : PyStr}
    {item : DiagnosisEvidence} (h : Traced state) (hfresh : Fresh state.called tool_id)
    (hrec : Recorded state log tool_id item state') : Traced state' where
  tools := by rw [hrec.called_eq, hrec.evidence, List.map_append, h.tools]; simp [hrec.tool]
  returned := by
    obtain ⟨step, hsteps, -, hids, -⟩ := hrec.steps
    rw [hsteps, hrec.evidence, List.map_append, List.map_append, h.returned]
    simp [hids]
  numbered := by
    obtain ⟨step, hsteps, -, -, hnumber⟩ := hrec.steps
    rw [hsteps, List.map_append, h.numbered, List.length_append, List.length_singleton]
    simp [oneTo, List.range'_concat, hnumber, Nat.add_comm]
  -- a fresh tool has not been called before
  unique := by
    rw [hrec.called_eq]
    exact List.nodup_append.mpr ⟨h.unique, List.nodup_singleton _, fun a ha b hb => by
      rw [List.mem_singleton.mp hb]
      exact fun heq => hfresh.not_called (heq ▸ ha)⟩
  allowlisted := by
    rw [hrec.called_eq]
    intro tool hmem
    rcases List.mem_append.mp hmem with hmem | hmem
    · exact h.allowlisted tool hmem
    · rw [List.mem_singleton.mp hmem]
      exact hfresh.allowlisted
  -- the new item carries the id that its tool fixes
  ids := by
    rw [hrec.evidence]
    intro item' hmem
    rcases List.mem_append.mp hmem with hmem | hmem
    · exact h.ids item' hmem
    · rw [List.mem_singleton.mp hmem, hrec.tool]
      exact hrec.id

/-- The responses of a state are counted. -/
structure Counted (state : DiagnosisState) (count : Nat) : Prop where
  response_ids : state.response_ids.length = count
  requests : state.usage.api_requests = count

theorem Counted.asked {state state' : DiagnosisState} {log : DiagnosisLog} {count : Nat}
    (h : Counted state count) (hasked : AskedOnce state log state') : Counted state' (count + 1) :=
  ⟨by rw [hasked.response_ids, h.response_ids], by rw [hasked.requests, h.requests]⟩

/-- What the loop leaves behind, where it ends: a state whose response ids and evidence are those
it began with and those of the log after them, with no more steps than the policy allows, and with
exactly that many where it ended because the budget was exhausted. -/
structure LoopLeft (rt : DiagnosisRuntime) (setting : DiagnosisSetting) (state : DiagnosisState)
    (log : DiagnosisLog) (exit : LoopExit) (state' : DiagnosisState) : Prop where
  traced : Traced state'
  counted : Counted state' (state'.steps.length + 1)
  answers : state'.response_ids = state.response_ids ++ answered log
  evidence : state'.evidence = state.evidence ++ executed rt setting.registry log
  within : state'.steps.length ≤ setting.policy.max_tool_calls
  budget : exit = .budgetExhausted → state'.steps.length = setting.policy.max_tool_calls

/-- A run of the loop with `calls` tool calls left. The bounds and the distinctness of the tools
hold of every run, one that raises included; `left` is about the runs that end, where a tool that
was called and is not among the executed ones raised, and there is at most one. -/
structure LoopRun (rt : DiagnosisRuntime) (setting : DiagnosisSetting) (calls : Nat)
    (state : DiagnosisState) (log : DiagnosisLog)
    (out : Except DiagnosisExc (LoopExit × DiagnosisState)) : Prop where
  requests : clientCalls log ≤ calls + 1
  tools : (observed log).length ≤ calls
  allowlisted : ∀ tool_id ∈ observed log, (toolById tool_id).isSome = true
  unique : (state.called ++ observed log).Nodup
  left : ∀ exit state', out = .ok (exit, state') →
    LoopLeft rt setting state log exit state' ∧ ∃ failed, failed.length ≤ 1 ∧
      observed log = (executed rt setting.registry log).map (·.tool_id) ++ failed

/-- Nine tools are more than the steps of any policy. -/
theorem functionTools_ne_nil {called : List PyStr} (hlength : called.length ≤ 8) :
    functionTools called ≠ [] := by
  intro hempty
  have hsubset : toolSpecs.map (·.tool_id) ⊆ called := by
    intro tool_id hmem
    obtain ⟨spec, hspec, rfl⟩ := List.mem_map.mp hmem
    by_contra hnot
    have hkept : spec ∈ functionTools called :=
      List.mem_filter.mpr ⟨hspec, decide_eq_true hnot⟩
    rw [hempty] at hkept
    cases hkept
  have hnodup : (toolSpecs.map (·.tool_id)).Nodup := by decide +kernel
  have hle := (List.subperm_of_subset hnodup hsubset).length_le
  have hnine : (toolSpecs.map (·.tool_id)).length = 9 := rfl
  omega

/-- A fresh tool after those called. -/
theorem nodup_fresh {called : List PyStr} {tool_id : PyStr} (h : called.Nodup)
    (hfresh : Fresh called tool_id) : (called ++ [tool_id]).Nodup := by
  refine List.nodup_append.mpr ⟨h, List.nodup_singleton _, fun a ha b hb => ?_⟩
  rw [List.mem_singleton.mp hb]
  exact fun heq => hfresh.not_called (heq ▸ ha)

/-- A pass that is the last one is a run of the loop: it has made one request, and called at most
one tool, which was fresh and, if anything is returned, is the one that raised. -/
theorem Attempt.loopRun {rt : DiagnosisRuntime} {setting : DiagnosisSetting} {again : NextPass}
    {calls : Nat} {state : DiagnosisState} {log : DiagnosisLog}
    {out : Except DiagnosisExc (LoopExit × DiagnosisState)} (htraced : Traced state)
    (h : Attempt again state log) (hcalls : again.isSome = true → 1 ≤ calls)
    (hleft : ∀ exit state', out = .ok (exit, state') →
      LoopLeft rt setting state log exit state' ∧ executed rt setting.registry log = []) :
    LoopRun rt setting calls state log out := by
  have hrequests : clientCalls log ≤ calls + 1 := by
    rw [h.calls]
    omega
  have hfailed : (observed log).length ≤ 1 → ∀ exit state', out = .ok (exit, state') →
      LoopLeft rt setting state log exit state' ∧ ∃ failed : List PyStr, failed.length ≤ 1 ∧
        observed log = (executed rt setting.registry log).map (·.tool_id) ++ failed := by
    intro hlength exit state' hout
    obtain ⟨hl, hnone⟩ := hleft exit state' hout
    exact ⟨hl, observed log, hlength, by rw [hnone]; rfl⟩
  rcases h.tools with hnone | ⟨tool_id, hone, hfresh, hsome⟩
  · refine ⟨hrequests, ?_, ?_, ?_, hfailed ?_⟩
    · simp [hnone]
    · simp [hnone]
    · simpa [hnone] using htraced.unique
    · simp [hnone]
  · have hcall := hcalls hsome
    refine ⟨hrequests, ?_, ?_, ?_, hfailed ?_⟩
    · simpa [hone] using hcall
    · simpa [hone] using hfresh.allowlisted
    · rw [hone]
      exact nodup_fresh htraced.unique hfresh
    · simp [hone]

/-- The steps stay within `max_tool_calls`, so a budget the loop reports is `max_tool_calls`. -/
theorem NoBudget.exhausted {setting : DiagnosisSetting} {again : NextPass}
    {state : DiagnosisState} {calls : Nat} (h : NoBudget setting again state)
    (hagain : again = none → calls = 0)
    (hcalls : state.steps.length + calls = setting.policy.max_tool_calls) :
    state.steps.length = setting.policy.max_tool_calls := by
  have hbudgets := setting.policy.budgets
  have hbound := setting.policy.max_tool_calls_bounds
  rcases h with hnone | hmax | hempty
  · have := hagain hnone
    omega
  · omega
  · refine absurd hempty (functionTools_ne_nil ?_)
    rw [DiagnosisState.called, List.length_map]
    omega

/-- A pass that leaves the loop, with or without a next one. -/
theorem loopRun_left {rt : DiagnosisRuntime} {setting : DiagnosisSetting} {again : NextPass}
    {calls : Nat} {state state' : DiagnosisState} {log : DiagnosisLog} {exit : LoopExit}
    (htraced : Traced state) (hcounted : Counted state state.steps.length)
    (hcalls : state.steps.length + calls = setting.policy.max_tool_calls)
    (hagain : again = none ↔ calls = 0) (hattempt : Attempt again state log)
    (hnone : executed rt setting.registry log = []) (hasked : AskedOnce state log state')
    (hsteps : state'.steps = state.steps) (hevidence : state'.evidence = state.evidence)
    (hbudget : exit = .budgetExhausted → NoBudget setting again state) :
    LoopRun rt setting calls state log (.ok (exit, state')) := by
  refine hattempt.loopRun htraced (fun hsome => Nat.pos_of_ne_zero fun hzero => ?_) ?_
  · rw [hagain.mpr hzero] at hsome
    cases hsome
  · intro exit' state'' hout
    cases hout
    refine ⟨⟨htraced.congr hsteps hevidence, ?_, hasked.answers,
      by rw [hevidence, hnone, List.append_nil], ?_,
      fun hexit => ?_⟩, hnone⟩
    · rw [hsteps]
      exact hcounted.asked hasked
    · rw [hsteps]
      omega
    · rw [hsteps]
      exact (hbudget hexit).exhausted hagain.mp hcalls

/-- A pass that executes a tool, and the run of the loop after it. -/
theorem LoopRun.executed {rt : DiagnosisRuntime} {setting : DiagnosisSetting} {calls : Nat}
    {state state' : DiagnosisState} {before after : DiagnosisLog} {tool_id : PyStr}
    {item : DiagnosisEvidence} {out : Except DiagnosisExc (LoopExit × DiagnosisState)}
    (hrequest : clientCalls before = 1) (htool : observed before = [tool_id])
    (hfresh : Fresh state.called tool_id)
    (hitem : Diagnosis.executed rt setting.registry before = [item])
    (hrec : Recorded state before tool_id item state')
    (h : LoopRun rt setting calls state' after out) :
    LoopRun rt setting (calls + 1) state (before ++ after) out where
  requests := by
    rw [clientCalls_append, hrequest]
    have := h.requests
    omega
  tools := by
    rw [observed_append, htool, List.length_append, List.length_singleton]
    have := h.tools
    omega
  allowlisted := by
    rw [observed_append, htool]
    intro tool hmem
    rcases List.mem_append.mp hmem with hmem | hmem
    · rw [List.mem_singleton.mp hmem]
      exact hfresh.allowlisted
    · exact h.allowlisted tool hmem
  unique := by
    -- the tool of this pass was called already, as the next one sees it
    rw [observed_append, htool, ← List.append_assoc, ← hrec.called_eq]
    exact h.unique
  left := by
    intro exit final hout
    obtain ⟨hleft, failed, hlength, hobserved⟩ := h.left exit final hout
    refine ⟨⟨hleft.traced, hleft.counted, ?_, ?_, hleft.within, hleft.budget⟩, failed, hlength, ?_⟩
    · rw [hleft.answers, hrec.asked.answers, answered_append, List.append_assoc]
    · rw [hleft.evidence, hrec.evidence, executed_append, hitem, List.append_assoc]
    · rw [observed_append, htool, hobserved, executed_append, hitem, List.map_append,
        List.append_assoc, List.map_singleton, hrec.tool]

/-- Every run of the loop, by induction on the calls that are left. -/
theorem runs_diagnosisLoop {rt : DiagnosisRuntime} {setting : DiagnosisSetting} {calls : Nat}
    {state : DiagnosisState} {log : DiagnosisLog}
    {out : Except DiagnosisExc (LoopExit × DiagnosisState)} (htraced : Traced state)
    (hcounted : Counted state state.steps.length)
    (hcalls : state.steps.length + calls = setting.policy.max_tool_calls)
    (h : Runs (diagnosisLoop rt setting calls state) log out) :
    LoopRun rt setting calls state log out := by
  induction calls generalizing state log with
  | zero =>
      cases runs_diagnosisPass h with
      | raised hattempt =>
          exact hattempt.loopRun htraced (fun hsome => by cases hsome)
            (fun _ _ hout => by cases hout)
      | left hattempt hnone hasked hsteps hevidence hbudget =>
          exact loopRun_left htraced hcounted hcalls (by simp) hattempt hnone hasked hsteps hevidence
            hbudget
      -- without calls left no tool is executed
      | executed hsome => cases hsome
  | succ calls ih =>
      cases runs_diagnosisPass h with
      | raised hattempt =>
          exact hattempt.loopRun htraced (fun _ => Nat.succ_pos calls)
            (fun _ _ hout => by cases hout)
      | left hattempt hnone hasked hsteps hevidence hbudget =>
          exact loopRun_left htraced hcounted hcalls (by simp) hattempt hnone hasked hsteps hevidence
            hbudget
      | executed hsome hrequest htool hfresh hitem hrec hrest =>
          cases hsome
          obtain ⟨step, hsteps, -⟩ := hrec.steps
          -- one call less, and one step more in the state
          refine LoopRun.executed hrequest htool hfresh hitem hrec
            (ih (htraced.recorded hfresh hrec) ?_ ?_ hrest)
          · rw [hsteps, List.length_append, List.length_singleton]
            exact hcounted.asked hrec.asked
          · rw [hsteps, List.length_append, List.length_singleton]
            omega

/-! ### After the loop

No tool is called any more. The decision is validated, repaired with one request at most, and
recorded together with what the loop has left. -/

/-- At most one request, and no tool: the log of what comes after the loop, where a decision is
repaired with one request at most. -/
structure NoTools (log : DiagnosisLog) : Prop where
  calls : clientCalls log ≤ 1
  tools : observed log = []
  none_executed : ∀ rt registry, executed rt registry log = []

theorem noTools_nil : NoTools [] := ⟨Nat.zero_le 1, rfl, fun _ _ => rfl⟩

theorem OneRequest.noTools {log : DiagnosisLog} (h : OneRequest log) : NoTools log :=
  ⟨h.calls.le, h.tools, h.none_executed⟩

theorem validated_ok {rt : DiagnosisRuntime} {setting : DiagnosisSetting} {state : DiagnosisState}
    {decision decision' : AgentDecision} {validation : DiagnosisValidation} :
    validated rt setting state decision = .ok (decision', validation) ↔
      decision' = decision ∧ validateDecision rt decision setting.policy
        setting.initial_evidence_ids state.evidence state.steps = .ok validation := by
  unfold validated
  cases validateDecision rt decision setting.policy setting.initial_evidence_ids state.evidence
      state.steps with
  | error e => simp [Bind.bind, Except.bind]
  | ok v => simp [Bind.bind, Except.bind, pure, Except.pure, eq_comm]

/-- The validator accepted the decision that was settled on. -/
def Settled (rt : DiagnosisRuntime) (setting : DiagnosisSetting) (state : DiagnosisState)
    (settled : ValidatedDecision) : Prop :=
  validateDecision rt settled.decision setting.policy setting.initial_evidence_ids state.evidence
    state.steps = .ok settled.validation

theorem runs_repairDecision {rt : DiagnosisRuntime} {setting : DiagnosisSetting}
    {state : DiagnosisState} {decision : AgentDecision} {initial_error : ValidationFailure}
    {log : DiagnosisLog} {out : Except DiagnosisExc ValidatedDecision}
    (h : Runs (repairDecision rt setting state decision initial_error) log out) :
    NoTools log ∧ ∀ settled, out = .ok settled → Settled rt setting state settled ∧
      OneRequest log := by
  unfold repairDecision at h
  -- the time check raises before anything is asked
  obtain ⟨e, -, rfl, rfl⟩ | ⟨_, -, hrest⟩ := runs_fromOps_bind h
  · exact ⟨noTools_nil, fun settled hout => by cases hout⟩
  split at hrest
  · -- no repair is left
    obtain ⟨rfl, rfl⟩ := runs_throw_iff.mp hrest
    exact ⟨noTools_nil, fun settled hout => by cases hout⟩
  -- the one request of the repair
  obtain ⟨e, rfl, hask⟩ | ⟨⟨response, asked⟩, before, after, hask, hafter, rfl⟩ :=
    Runs.bind_cases hrest
  · exact ⟨(runs_askModel hask).1.noTools, fun settled hout => by cases hout⟩
  have hrequest := (runs_askModel hask).1
  dsimp only at hafter
  split at hafter
  · obtain ⟨rfl, rfl⟩ := runs_throw_iff.mp hafter
    rw [List.append_nil]
    exact ⟨hrequest.noTools, fun settled hout => by cases hout⟩
  · -- the repaired decision is valid, and it is the one that is returned
    rename_i repaired validation hvalidated
    obtain ⟨e, -, rfl, rfl⟩ | ⟨_, -, hret⟩ := runs_fromOps_bind hafter
    · rw [List.append_nil]
      exact ⟨hrequest.noTools, fun settled hout => by cases hout⟩
    · obtain ⟨rfl, rfl⟩ := runs_ret_iff.mp hret
      rw [List.append_nil]
      refine ⟨hrequest.noTools, fun settled hout => ?_⟩
      cases hout
      refine ⟨?_, hrequest⟩
      cases hrepaired : repairedDecision rt response with
      | error e =>
          rw [hrepaired] at hvalidated
          cases hvalidated
      | ok answer =>
          rw [hrepaired] at hvalidated
          obtain ⟨rfl, hok⟩ := validated_ok.mp hvalidated
          exact hok

theorem runs_settleDecision {rt : DiagnosisRuntime} {setting : DiagnosisSetting}
    {state : DiagnosisState} {decision : AgentDecision} {log : DiagnosisLog}
    {out : Except DiagnosisExc ValidatedDecision}
    (h : Runs (settleDecision rt setting state decision) log out) :
    NoTools log ∧ ∀ settled, out = .ok settled → Settled rt setting state settled := by
  unfold settleDecision at h
  split at h
  · rename_i accepted validation hvalidated
    obtain ⟨rfl, hok⟩ := validated_ok.mp hvalidated
    obtain ⟨e, -, rfl, rfl⟩ | ⟨_, -, hret⟩ := runs_fromOps_bind h
    · exact ⟨noTools_nil, fun settled hout => by cases hout⟩
    · obtain ⟨rfl, rfl⟩ := runs_ret_iff.mp hret
      refine ⟨noTools_nil, fun settled hout => ?_⟩
      cases hout
      exact hok
  · obtain ⟨hlog, hsettled⟩ := runs_repairDecision h
    exact ⟨hlog, fun settled hout => (hsettled settled hout).1⟩

/-- What the record takes over from the state and from the decision. The evidence and the steps
are the state's, and the hypotheses and the reason for stopping are the decision's, so that
whatever is known of these is known of the record. -/
structure RecordOf (input : DiagnosisInput) (setting : DiagnosisSetting) (state : DiagnosisState)
    (decision : AgentDecision) (record : DiagnosisRecord) : Prop where
  evaluation : record.condition_evaluation_id = input.condition_evaluation.evaluation_id
  policy : record.policy = setting.policy
  initial : record.initial_evidence_ids = setting.initial_evidence_ids
  evidence : record.additional_evidence = state.evidence
  steps : record.steps = state.steps
  hypotheses : record.hypotheses = decision.hypotheses
  stop_reason : record.stop_reason = decision.stop_reason

theorem diagnosisRecord_ok {rt : DiagnosisRuntime} {input : DiagnosisInput}
    {setting : DiagnosisSetting} {state : DiagnosisState} {settled : ValidatedDecision}
    {started_at completed_at : Aware} {record : DiagnosisRecord}
    (h : diagnosisRecord rt input setting state settled started_at completed_at = .ok record) :
    RecordOf input setting state settled.decision record := by
  unfold diagnosisRecord at h
  obtain ⟨context, -, h⟩ := OpsAgent.bind_ok.mp h
  obtain ⟨_, -, h⟩ := OpsAgent.bind_ok.mp h
  cases h
  exact ⟨rfl, rfl, rfl, rfl, rfl, rfl, rfl⟩

theorem runs_finishDiagnosis {rt : DiagnosisRuntime} {input : DiagnosisInput}
    {setting : DiagnosisSetting} {state : DiagnosisState} {started_at : Aware}
    {decision : AgentDecision} {log : DiagnosisLog} {out : Except DiagnosisExc DiagnosisRecord}
    (h : Runs (finishDiagnosis rt input setting state started_at decision) log out) :
    NoTools log ∧ ∀ record, out = .ok record → ∃ settled : ValidatedDecision,
      Settled rt setting state settled ∧ RecordOf input setting state settled.decision record := by
  unfold finishDiagnosis at h
  obtain ⟨e, rfl, hsettle⟩ | ⟨settled, before, after, hsettle, hrest, rfl⟩ := Runs.bind_cases h
  · exact ⟨(runs_settleDecision hsettle).1, fun record hout => by cases hout⟩
  obtain ⟨hlog, hsettled⟩ := runs_settleDecision hsettle
  obtain ⟨time, rest, rfl, hrecord⟩ := Runs.call_cases hrest
  obtain ⟨rfl, hout⟩ := runs_fromOps hrecord
  refine ⟨⟨by simpa using hlog.calls, by simpa using hlog.tools,
    by simpa using hlog.none_executed⟩, fun record hok => ⟨settled, hsettled settled rfl, ?_⟩⟩
  rcases hout with ⟨made, hmade, rfl⟩ | ⟨e, -, rfl⟩
  · cases hok
    exact diagnosisRecord_ok hmade
  · cases hok

/-! ### Forbidden claims

The validator looks for the forbidden claims in all texts of a decision joined by blanks. A claim
in one of the texts is one in the joined text. -/

theorem upper_mono (rt : DiagnosisRuntime) {part text : PyStr} (h : part <:+: text) :
    rt.upper part <:+: rt.upper text := by
  obtain ⟨before, after, rfl⟩ := h
  exact ⟨rt.upper before, rt.upper after, by rw [rt.upper_append, rt.upper_append]⟩

theorem part_infix_joinSpaces {text : PyStr} {texts : List PyStr} (h : text ∈ texts) :
    text <:+: joinSpaces texts := by
  induction texts with
  | nil => cases h
  | cons first rest ih =>
      rcases List.mem_cons.mp h with rfl | hrest
      · cases rest with
        | nil => exact List.infix_refl text
        | cons second rest =>
            rw [joinSpaces, List.append_assoc]
            · exact (List.prefix_append text _).isInfix
            · exact List.cons_ne_nil second rest
      · cases rest with
        | nil => cases hrest
        | cons second rest =>
            rw [joinSpaces]
            · exact (ih hrest).trans (List.suffix_append _ _).isInfix
            · exact List.cons_ne_nil second rest

theorem forbidden_mono {part text : PyStr} (h : Forbidden part) (hpart : part <:+: text) :
    Forbidden text := by
  obtain ⟨claim, hmem, hclaim⟩ := h
  exact ⟨claim, hmem, hclaim.trans hpart⟩

/-- What the validator accepts has no forbidden claim in any of its texts. -/
theorem claims_of_structuredText {rt : DiagnosisRuntime} {hypothesis : HypothesisResult}
    (h : ¬ Forbidden (structuredText rt hypothesis)) :
    ∀ text ∈ hypothesis.reason_codes ++ hypothesis.evidence_gaps, ¬ Forbidden (rt.upper text) :=
  fun _ hmem hforbidden => h (forbidden_mono hforbidden (upper_mono rt (part_infix_joinSpaces hmem)))

/-! ### The run -/

/-- The run stays within the budgets of the policy, and within the list of tools. -/
structure WithinBudgets (policy : DiagnosisPolicy) (log : DiagnosisLog) : Prop where
  requests : clientCalls log ≤ policy.max_tool_calls + 2
  tools : (observed log).length ≤ policy.max_tool_calls
  allowlisted : ∀ tool_id ∈ observed log, tool_id ∈ toolSpecs.map (·.tool_id)
  unique : (observed log).Nodup

/-- The record says what was done, and cites what was seen. -/
structure Grounded (rt : DiagnosisRuntime) (input : DiagnosisInput)
    (registry : DiagnosisToolRegistry) (log : DiagnosisLog) (record : DiagnosisRecord) : Prop where
  /-- The steps are the tools that were executed, in order. -/
  steps : record.steps.map (·.tool_id) = (executed rt registry log).map (·.tool_id)
  /-- A tool that was called and is not among them raised, and was the last. -/
  failed : ∃ failed, failed.length ≤ 1 ∧
    observed log = (executed rt registry log).map (·.tool_id) ++ failed
  evidence : record.additional_evidence = executed rt registry log
  citations : ∀ hypothesis ∈ record.hypotheses,
    ∀ id ∈ hypothesis.supporting_evidence_ids ++ hypothesis.conflicting_evidence_ids,
      id ∈ (initialEvidence input.condition_evaluation input.bundles).1 ∨
        id ∈ (executed rt registry log).map (·.evidence_id)
  claims : ∀ hypothesis ∈ record.hypotheses, ¬ Forbidden (structuredText rt hypothesis) ∧
    ∀ text ∈ hypothesis.reason_codes ++ hypothesis.evidence_gaps, ¬ Forbidden (rt.upper text)

theorem mem_toolSpecs_of_isSome {tool_id : PyStr} (h : (toolById tool_id).isSome = true) :
    tool_id ∈ toolSpecs.map (·.tool_id) := by
  obtain ⟨spec, hspec⟩ := Option.isSome_iff_exists.mp h
  refine List.mem_map.mpr ⟨spec, List.mem_of_find?_eq_some hspec, ?_⟩
  have hfound := List.find?_some (p := fun item : ToolSpec => decide (item.tool_id = tool_id)) hspec
  exact of_decide_eq_true hfound

theorem beginDiagnosis_ok {rt : DiagnosisRuntime}
    {evaluate : List EvidenceBundle → Except OpsExc Sha256} {input : DiagnosisInput}
    {setting : DiagnosisSetting} (h : beginDiagnosis rt evaluate input = .ok setting) :
    input.condition_evaluation.core_state = .present ∧
      DiagnosisToolRegistry.create rt input.bundles input.condition_evaluation
        = .ok setting.registry ∧
      setting.policy = input.policy ∧ setting.initial_evidence_ids =
        (initialEvidence input.condition_evaluation input.bundles).1 := by
  unfold beginDiagnosis at h
  obtain ⟨recomputed, -, h⟩ := OpsAgent.bind_ok.mp h
  obtain ⟨_, -, h⟩ := OpsAgent.bind_ok.mp h
  obtain ⟨_, hpresent, h⟩ := OpsAgent.bind_ok.mp h
  obtain ⟨registry, hregistry, h⟩ := OpsAgent.bind_ok.mp h
  cases h
  exact ⟨ensure_eq_ok.mp hpresent, hregistry, rfl, rfl⟩

/-- The loop of a run starts from nothing, so a trace of it is the trace of the run. -/
theorem runs_firstLoop {rt : DiagnosisRuntime} {input : DiagnosisInput}
    {setting : DiagnosisSetting} {log : DiagnosisLog}
    {out : Except DiagnosisExc (LoopExit × DiagnosisState)}
    (h : Runs (diagnosisLoop rt setting setting.policy.max_tool_calls (firstState input))
      log out) :
    LoopRun rt setting setting.policy.max_tool_calls (firstState input) log out :=
  runs_diagnosisLoop (traced_firstState input) ⟨rfl, rfl⟩ (Nat.zero_add _) h

theorem LoopRun.withinBudgets {rt : DiagnosisRuntime} {input : DiagnosisInput}
    {setting : DiagnosisSetting} {log after : DiagnosisLog}
    {out : Except DiagnosisExc (LoopExit × DiagnosisState)}
    (h : LoopRun rt setting setting.policy.max_tool_calls (firstState input) log out)
    (hafter : NoTools after) : WithinBudgets setting.policy (log ++ after) where
  requests := by
    rw [clientCalls_append]
    have := h.requests
    have := hafter.calls
    omega
  tools := by simpa [hafter.tools] using h.tools
  allowlisted := by
    rw [observed_append, hafter.tools, List.append_nil]
    exact fun tool_id hmem => mem_toolSpecs_of_isSome (h.allowlisted tool_id hmem)
  unique := by
    rw [observed_append, hafter.tools, List.append_nil]
    exact h.unique

theorem grounded_record {rt : DiagnosisRuntime} {input : DiagnosisInput}
    {setting : DiagnosisSetting} {state : DiagnosisState} {log after : DiagnosisLog}
    {exit : LoopExit} {settled : ValidatedDecision} {record : DiagnosisRecord}
    (hinitial : setting.initial_evidence_ids =
      (initialEvidence input.condition_evaluation input.bundles).1)
    (h : LoopRun rt setting setting.policy.max_tool_calls (firstState input) log
      (.ok (exit, state)))
    (hafter : NoTools after) (hsettled : Settled rt setting state settled)
    (hrecord : RecordOf input setting state settled.decision record) :
    Grounded rt input setting.registry (log ++ after) record := by
  obtain ⟨hleft, failed, hlength, hobserved⟩ := h.left exit state rfl
  have hexecuted : executed rt setting.registry (log ++ after) = state.evidence := by
    rw [executed_append, hafter.none_executed, List.append_nil, hleft.evidence]
    rfl
  obtain ⟨-, -, hhypotheses, -⟩ := validateDecision_ok.mp hsettled
  refine ⟨?_, ⟨failed, hlength, ?_⟩, ?_, ?_, ?_⟩
  · rw [hexecuted, hrecord.steps]
    exact hleft.traced.tools
  · rw [hexecuted, observed_append, hafter.tools, List.append_nil, hobserved, hleft.evidence]
    rfl
  · rw [hexecuted, hrecord.evidence]
  · rw [hexecuted, hrecord.hypotheses, ← hinitial]
    intro hypothesis hmem id hid
    exact List.mem_append.mp ((hhypotheses hypothesis hmem).citations id hid)
  · rw [hrecord.hypotheses]
    intro hypothesis hmem
    have hclaims := (hhypotheses hypothesis hmem).claims
    exact ⟨hclaims, claims_of_structuredText hclaims⟩

theorem withinBudgets_nil (policy : DiagnosisPolicy) (time : Aware) :
    WithinBudgets policy [⟨.now, time⟩] :=
  ⟨by simp, by simp, by simp, by simp⟩

/-- Every run of a diagnosis stays within its budgets, and what it records is grounded. -/
theorem runs_runDiagnosis {rt : DiagnosisRuntime}
    {evaluate : List EvidenceBundle → Except OpsExc Sha256} {input : DiagnosisInput}
    {log : DiagnosisLog} {out : Except DiagnosisExc DiagnosisRecord}
    (h : Runs (runDiagnosis rt evaluate input) log out) :
    WithinBudgets input.policy log ∧ ∀ record, out = .ok record →
      ∃ registry, DiagnosisToolRegistry.create rt input.bundles input.condition_evaluation
        = .ok registry ∧ Grounded rt input registry log record := by
  unfold runDiagnosis at h
  obtain ⟨started_at, rest, rfl, hbegin⟩ := Runs.call_cases h
  obtain ⟨e, -, rfl, rfl⟩ | ⟨setting, hsetting, hloop⟩ := runs_fromOps_bind hbegin
  · exact ⟨withinBudgets_nil _ _, fun record hout => by cases hout⟩
  obtain ⟨-, hregistry, hpolicy, hinitial⟩ := beginDiagnosis_ok hsetting
  -- the request of the clock changes nothing that is counted
  have hnow : ∀ {tail : DiagnosisLog}, WithinBudgets setting.policy tail →
      WithinBudgets input.policy (⟨.now, started_at⟩ :: tail) := fun hwithin =>
    ⟨by simpa [← hpolicy] using hwithin.requests, by simpa [← hpolicy] using hwithin.tools,
      hwithin.allowlisted, hwithin.unique⟩
  obtain ⟨e, rfl, hfailed⟩ | ⟨⟨exit, state⟩, before, after, hended, hfinish, rfl⟩ :=
    Runs.bind_cases hloop
  · refine ⟨hnow ?_, fun record hout => by cases hout⟩
    simpa using (runs_firstLoop hfailed).withinBudgets noTools_nil
  · have hrun := runs_firstLoop hended
    obtain ⟨hafter, hrecorded⟩ := runs_finishDiagnosis hfinish
    refine ⟨hnow (hrun.withinBudgets hafter), fun record hout => ?_⟩
    obtain ⟨settled, hsettled, hrecord⟩ := hrecorded record hout
    have hgrounded := grounded_record hinitial hrun hafter hsettled hrecord
    exact ⟨setting.registry, hregistry, hgrounded.steps, hgrounded.failed, hgrounded.evidence,
      hgrounded.citations, hgrounded.claims⟩

end Diagnosis

open Diagnosis in
/-- Whatever the model does, a diagnosis ends within its budgets, with an exception or with a
record of what was done that cites only what was seen.

The run is followed by inversion: `runs_runDiagnosis` says what every run of the loop keeps,
whatever the answers are, and here it is read off the run with the given ones. -/
theorem runDiagnosis_bounded_and_grounded (rt : DiagnosisRuntime)
    (evaluate : List EvidenceBundle → Except OpsExc Sha256) (input : DiagnosisInput)
    (answer : DiagnosisLog → (o : DiagnosisOp) → o.Res) :
    let run := transcript answer [] (runDiagnosis rt evaluate input)
    WithinBudgets input.policy run.1 ∧
      ((∃ e, run.2 = .error e) ∨ ∃ record registry, run.2 = .ok record ∧
        DiagnosisToolRegistry.create rt input.bundles input.condition_evaluation = .ok registry ∧
        Grounded rt input registry run.1 record) := by
  intro run
  obtain ⟨hwithin, hrecorded⟩ :=
    runs_runDiagnosis (runs_transcript answer [] (runDiagnosis rt evaluate input))
  refine ⟨hwithin, ?_⟩
  cases hout : run.2 with
  | error e => exact .inl ⟨e, rfl⟩
  | ok record =>
      obtain ⟨registry, hregistry, hgrounded⟩ := hrecorded record hout
      exact .inr ⟨record, registry, rfl, hregistry, hgrounded⟩

end EventPipeline.Guarantees
