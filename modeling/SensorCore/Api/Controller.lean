import SensorCore.Lib.Checks
import SensorCore.Lib.Transition

/-!
`ApiController` and `RequestHandler` over any transport and any core.

The controller starts the request handler, which starts the core, and then the
transport; it stops them the other way round. Both keep a running flag of their
own. The methods are written against `ITransport` and `ICore`: what a call does is
a function of the component's state and of what the outside world does during the
call, and `none` means that the process ended in it.

A run-loop thread that ends with an error clears the controller's flag. It can end
between two calls (`Event.runLoopEnds`), or after `startAsync` has raised the flag
and before it returns (`StartOutcome.early`).

`stop` clears a flag before it stops what the flag stands for, and does nothing
when the flag is down. So a stop that failed once, or a run loop that failed, makes
every later stop report success with the layers still up. `stops_honest_iff` says
exactly which runs are free of that.
-/

namespace SensorCore.Api

open SensorCore.Lib

/-! ### The interfaces -/

/-- The lifecycle of a core. -/
structure ICore (In Out κ : Type) where
  start : In → κ → Option (Result Unit × κ)
  stop : Out → κ → Option (Result Unit × κ)

/-- The lifecycle of a transport. -/
structure ITransport (In Out τ : Type) where
  start : String → In → τ → Option (Result Unit × τ)
  stop : Out → τ → Option (Result Unit × τ)

/-! ### The request handler -/

structure RequestHandler (κ : Type) where
  core : κ
  isRunning : Bool
  deriving DecidableEq, Repr

namespace RequestHandler

variable {In Out κ : Type} (I : ICore In Out κ)

def start (o : In) (h : RequestHandler κ) : Option (Result Unit × RequestHandler κ) :=
  match I.start o h.core with
  | none => none
  | some (.error e, core) => some (.error e, { h with core })
  | some (.ok (), core) => some (.ok (), { core, isRunning := true })

def stop (o : Out) (h : RequestHandler κ) : Option (Result Unit × RequestHandler κ) :=
  if h.isRunning then
    match I.stop o h.core with
    | none => none
    | some (.error e, core) =>
        some (.error ("Failed to shut down core: " ++ e), { core, isRunning := false })
    | some (.ok (), core) => some (.ok (), { core, isRunning := false })
  else some (.ok (), h)

variable {I}

/-- A start takes over the core's result; the flag rises on success only. -/
theorem start_cases {o : In} {h after : RequestHandler κ} {r : Result Unit}
    (ran : start I o h = some (r, after)) :
    I.start o h.core = some (r, after.core) ∧
      ((r = .ok () ∧ after.isRunning = true) ∨
        ((∃ e, r = .error e) ∧ after.isRunning = h.isRunning)) := by
  unfold start at ran
  split at ran
  · cases ran
  · rename_i e core failed
    cases ran
    exact ⟨failed, .inr ⟨⟨e, rfl⟩, rfl⟩⟩
  · rename_i core started
    cases ran
    exact ⟨started, .inl ⟨rfl, rfl⟩⟩

/-- A stop does nothing when the flag is down. Otherwise it clears the flag and
stops the core, whatever comes of that. -/
theorem stop_cases {o : Out} {h after : RequestHandler κ} {r : Result Unit}
    (ran : stop I o h = some (r, after)) :
    (h.isRunning = false ∧ r = .ok () ∧ after = h) ∨
    (h.isRunning = true ∧ after.isRunning = false ∧
      ((r = .ok () ∧ I.stop o h.core = some (.ok (), after.core)) ∨
        ∃ e, r = .error ("Failed to shut down core: " ++ e) ∧
          I.stop o h.core = some (.error e, after.core))) := by
  unfold stop at ran
  split at ran
  · rename_i running
    refine .inr ⟨running, ?_⟩
    split at ran
    · cases ran
    · rename_i e core failed
      cases ran
      exact ⟨rfl, .inr ⟨e, rfl, failed⟩⟩
    · rename_i core stopped
      cases ran
      exact ⟨rfl, .inl ⟨rfl, stopped⟩⟩
  · rename_i stopped
    cases ran
    exact .inl ⟨Bool.eq_false_iff.mpr stopped, rfl, rfl⟩

end RequestHandler

/-! ### The controller -/

structure ApiController (τ κ : Type) where
  requestHandler : RequestHandler κ
  transport : τ
  serverAddress : String
  isRunning : Bool
  deriving DecidableEq, Repr

/-- What the outside world does during `startAsync`: to the core, to the transport,
to the core again when the transport fails; and the results of the run loops that
end after the flag is raised and before the call returns. -/
structure StartOutcome (CoreIn TransportIn CoreOut : Type) where
  core : CoreIn
  transport : TransportIn
  rollback : CoreOut
  early : List (Result Unit)

/-- What the outside world does during `stop`. -/
structure StopOutcome (TransportOut CoreOut : Type) where
  transport : TransportOut
  core : CoreOut

namespace ApiController

variable {TIn TOut CIn COut τ κ : Type}

/-- A run-loop thread ends: on an error it stores `false` in the flag. -/
def runLoopEnds (r : Result Unit) (c : ApiController τ κ) : ApiController τ κ :=
  match r with
  | .ok () => c
  | .error _ => { c with isRunning := false }

variable (T : ITransport TIn TOut τ) (I : ICore CIn COut κ)

def startAsync (o : StartOutcome CIn TIn COut) (c : ApiController τ κ) :
    Option (Result Unit × ApiController τ κ) :=
  match c.requestHandler.start I o.core with
  | none => none
  | some (.error e, requestHandler) => some (.error e, { c with requestHandler })
  | some (.ok (), requestHandler) =>
      match T.start c.serverAddress o.transport c.transport with
      | none => none
      | some (.error e, transport) =>
          match requestHandler.stop I o.rollback with
          | none => none
          | some (.error e', requestHandler) =>
              some (.error e', { c with requestHandler, transport })
          | some (.ok (), requestHandler) => some (.error e, { c with requestHandler, transport })
      | some (.ok (), transport) =>
          let c := { c with requestHandler, transport, isRunning := true }
          some (.ok (), o.early.foldl (fun c r => runLoopEnds r c) c)

def stop (o : StopOutcome TOut COut) (c : ApiController τ κ) :
    Option (Result Unit × ApiController τ κ) :=
  if c.isRunning then
    let c := { c with isRunning := false }
    match T.stop o.transport c.transport with
    | none => none
    | some (.error e, transport) =>
        some (.error ("Error stopping transport: " ++ e), { c with transport })
    | some (.ok (), transport) =>
        match c.requestHandler.stop I o.core with
        | none => none
        | some (.error e, requestHandler) =>
            some (.error ("Failed to stop request handler: " ++ e),
              { c with transport, requestHandler })
        | some (.ok (), requestHandler) => some (.ok (), { c with transport, requestHandler })
  else some (.ok (), c)

variable {T I}

@[simp] theorem runLoopEnds_requestHandler (r : Result Unit) (c : ApiController τ κ) :
    (runLoopEnds r c).requestHandler = c.requestHandler := by
  unfold runLoopEnds
  split <;> rfl

@[simp] theorem runLoopEnds_transport (r : Result Unit) (c : ApiController τ κ) :
    (runLoopEnds r c).transport = c.transport := by
  unfold runLoopEnds
  split <;> rfl

theorem runLoopEnds_isRunning {r : Result Unit} {c : ApiController τ κ}
    (running : (runLoopEnds r c).isRunning = true) : c.isRunning = true := by
  cases r with
  | ok u => exact running
  | error e => cases running

/-- Run loops that end touch nothing but the flag, and only clear it. -/
theorem early_frame (rs : List (Result Unit)) (c : ApiController τ κ) :
    (rs.foldl (fun c r => runLoopEnds r c) c).requestHandler = c.requestHandler ∧
      (rs.foldl (fun c r => runLoopEnds r c) c).transport = c.transport ∧
      ((rs.foldl (fun c r => runLoopEnds r c) c).isRunning = true → c.isRunning = true) := by
  induction rs generalizing c with
  | nil => exact ⟨rfl, rfl, id⟩
  | cons r rs ih =>
      obtain ⟨handler, transport, flag⟩ := ih (runLoopEnds r c)
      refine ⟨handler.trans (runLoopEnds_requestHandler r c),
        transport.trans (runLoopEnds_transport r c), ?_⟩
      intro running
      exact runLoopEnds_isRunning (flag running)

/-- Run loops that end well change nothing. -/
theorem early_ok {rs : List (Result Unit)} (fine : ∀ r ∈ rs, r = .ok ()) (c : ApiController τ κ) :
    rs.foldl (fun c r => runLoopEnds r c) c = c := by
  induction rs with
  | nil => rfl
  | cons r rs ih =>
      obtain rfl := fine r List.mem_cons_self
      apply ih
      intro r' mem
      exact fine r' (List.mem_cons_of_mem _ mem)

/-- A start fails in the handler, fails in the transport and rolls back, or raises
the flag over a started handler and a started transport. -/
theorem startAsync_cases {o : StartOutcome CIn TIn COut} {c after : ApiController τ κ}
    {r : Result Unit} (ran : startAsync T I o c = some (r, after)) :
    (∃ e handler, c.requestHandler.start I o.core = some (.error e, handler) ∧ r = .error e ∧
      after = { c with requestHandler := handler }) ∨
    ∃ handler, c.requestHandler.start I o.core = some (.ok (), handler) ∧
      ((∃ e transport r' handler', T.start c.serverAddress o.transport c.transport =
            some (.error e, transport) ∧
          handler.stop I o.rollback = some (r', handler') ∧ (∃ e', r = .error e') ∧
          after = { c with requestHandler := handler', transport }) ∨
        ∃ transport, T.start c.serverAddress o.transport c.transport = some (.ok (), transport) ∧
          r = .ok () ∧ after = o.early.foldl (fun c r => runLoopEnds r c)
            { c with requestHandler := handler, transport, isRunning := true }) := by
  unfold startAsync at ran
  split at ran
  · cases ran
  · rename_i e handler failed
    cases ran
    exact .inl ⟨e, handler, failed, rfl, rfl⟩
  · rename_i handler started
    refine .inr ⟨handler, started, ?_⟩
    split at ran
    · cases ran
    · rename_i e transport failed
      split at ran
      · cases ran
      · rename_i e' handler' rolledBack
        cases ran
        exact .inl ⟨e, transport, .error e', handler', failed, rolledBack, ⟨e', rfl⟩, rfl⟩
      · rename_i handler' rolledBack
        cases ran
        exact .inl ⟨e, transport, .ok (), handler', failed, rolledBack, ⟨e, rfl⟩, rfl⟩
    · rename_i transport opened
      cases ran
      exact .inr ⟨transport, opened, rfl, rfl⟩

/-- A stop does nothing when the flag is down. Otherwise it clears the flag, stops
the transport and, when that succeeds, the handler. -/
theorem stop_cases {o : StopOutcome TOut COut} {c after : ApiController τ κ} {r : Result Unit}
    (ran : stop T I o c = some (r, after)) :
    (c.isRunning = false ∧ r = .ok () ∧ after = c) ∨
    (c.isRunning = true ∧ after.isRunning = false ∧
      ((∃ e, T.stop o.transport c.transport = some (.error e, after.transport) ∧
          after.requestHandler = c.requestHandler ∧
          r = .error ("Error stopping transport: " ++ e)) ∨
        (T.stop o.transport c.transport = some (.ok (), after.transport) ∧
          ((∃ e, c.requestHandler.stop I o.core = some (.error e, after.requestHandler) ∧
              r = .error ("Failed to stop request handler: " ++ e)) ∨
            (c.requestHandler.stop I o.core = some (.ok (), after.requestHandler) ∧
              r = .ok ()))))) := by
  unfold stop at ran
  split at ran
  · rename_i running
    refine .inr ⟨running, ?_⟩
    dsimp only at ran
    split at ran
    · cases ran
    · rename_i e transport failed
      cases ran
      exact ⟨rfl, .inl ⟨e, failed, rfl, rfl⟩⟩
    · rename_i transport closed
      split at ran
      · cases ran
      · rename_i e handler failed
        cases ran
        exact ⟨rfl, .inr ⟨closed, .inl ⟨e, failed, rfl⟩⟩⟩
      · rename_i handler stopped
        cases ran
        exact ⟨rfl, .inr ⟨closed, .inr ⟨stopped, rfl⟩⟩⟩
  · rename_i stopped
    cases ran
    exact .inl ⟨Bool.eq_false_iff.mpr stopped, rfl, rfl⟩

end ApiController

/-! ### Runs -/

inductive Event (CIn TIn COut TOut : Type) where
  | startAsync (o : StartOutcome CIn TIn COut)
  | stop (o : StopOutcome TOut COut)
  | runLoopEnds (r : Result Unit)

/-- A controller under any sequence of calls and ends of run loops. -/
def ApiController.machine {TIn TOut CIn COut τ κ : Type} (T : ITransport TIn TOut τ)
    (I : ICore CIn COut κ) (c : ApiController τ κ) :
    Machine (ApiController τ κ) (Event CIn TIn COut TOut) where
  init := c
  step
    | .startAsync o, c => (c.startAsync T I o).map Prod.snd
    | .stop o, c => (c.stop T I o).map Prod.snd
    | .runLoopEnds r, c => some (c.runLoopEnds r)

end SensorCore.Api
