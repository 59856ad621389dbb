import SensorCore.Api.Transport
import SensorCore.Core.Lifecycle

/-!
The real stack: the controller over `GrpcTransport` and `Core`.

`Nested` is the order of the layers. A controller that is running has a live
server, a transport that is up has a running request handler, and a running
handler has a running core with exactly the clients the configuration lists. Starts
build from the inside out and stops tear down from the outside in, so the nesting
holds after every call, through failures and rollbacks. The step that needs an
argument is a second start: the running core refuses it, and the transport, which
would drop its server, is never reached.
-/

namespace SensorCore.Api

open SensorCore.Lib SensorCore.Config SensorCore.Clients

/-- The lifecycle interface of the core. -/
def coreLifecycle : ICore Core.StartOutcome Core.StopOutcome Core where
  start := Core.start
  stop := Core.stop

abbrev Stack := ApiController GrpcTransport Core

namespace Stack

abbrev StackEvent := Event Core.StartOutcome Build Core.StopOutcome Unit

/-- The stack as the factory builds it. -/
def new (config : InfrastructureConfig) (address : String) : Stack :=
  ⟨⟨Core.new config, false⟩, GrpcTransport.new, address, false⟩

/-- The stack under any sequence of calls and ends of run loops. -/
def machine (config : InfrastructureConfig) (address : String) : Machine Stack StackEvent :=
  ApiController.machine GrpcTransport.lifecycle coreLifecycle (new config address)

/-- In this event gRPC returns no server without a port. -/
def BoundBuild : StackEvent → Prop
  | .startAsync o => o.transport.Bound
  | .stop _ => True
  | .runLoopEnds _ => True

/-- The stacks reached by any calls, with any outcome of the outside world. -/
abbrev Reachable (config : InfrastructureConfig) (address : String) : Stack → Prop :=
  (machine config address).ReachVia fun _ e => BoundBuild e

/-- Each layer is up only over the one below it. -/
structure Nested (config : InfrastructureConfig) (s : Stack) : Prop where
  controller : s.isRunning = true →
    s.transport.isRunning = true ∧ s.transport.server.isSome = true
  transport : s.transport.isRunning = true ∨ s.transport.server.isSome = true →
    s.requestHandler.isRunning = true
  handler : s.requestHandler.isRunning = true → s.requestHandler.core.Serving
  config : s.requestHandler.core.infrastructureConfig = config

/-- Without a running handler the transport is down. -/
theorem Nested.transport_down {config : InfrastructureConfig} {s : Stack} (nested : s.Nested config)
    (idle : s.requestHandler.isRunning = false) :
    s.transport.isRunning = false ∧ s.transport.server = none := by
  constructor
  · apply Bool.eq_false_iff.mpr
    intro running
    rw [nested.transport (.inl running)] at idle
    cases idle
  · apply Option.not_isSome_iff_eq_none.mp
    intro live
    rw [nested.transport (.inr live)] at idle
    cases idle

/-- A handler that starts found its core down and serves its configuration. -/
theorem handler_start_ok {o : Core.StartOutcome} {h after : RequestHandler Core}
    (started : h.start coreLifecycle o = some (.ok (), after)) :
    h.core.isRunning = false ∧ after.isRunning = true ∧ after.core.Serving ∧
      after.core.infrastructureConfig = h.core.infrastructureConfig := by
  obtain ⟨core, ⟨-, flag⟩ | ⟨⟨_, failed⟩, -⟩⟩ := RequestHandler.start_cases started
  · obtain ⟨down, config, serving⟩ := Core.start_ok core
    exact ⟨down, flag, serving, config⟩
  · cases failed

/-- A handler start that succeeds found the handler down. -/
theorem Nested.idle_of_start {config : InfrastructureConfig} {s : Stack} (nested : s.Nested config)
    {o : Core.StartOutcome} {handler : RequestHandler Core}
    (started : s.requestHandler.start coreLifecycle o = some (.ok (), handler)) :
    s.requestHandler.isRunning = false ∧ handler.core.Serving ∧
      handler.core.infrastructureConfig = config ∧ handler.isRunning = true := by
  obtain ⟨down, flag, serving, same⟩ := handler_start_ok started
  refine ⟨?_, serving, same.trans nested.config, flag⟩
  apply Bool.eq_false_iff.mpr
  intro running
  rw [(nested.handler running).1] at down
  cases down

/-- A stopped handler leaves the core's configuration alone. -/
theorem handler_stop_config {o : Core.StopOutcome} {h after : RequestHandler Core} {r : Result Unit}
    (ran : h.stop coreLifecycle o = some (r, after)) :
    after.core.infrastructureConfig = h.core.infrastructureConfig := by
  rcases RequestHandler.stop_cases ran with ⟨-, -, rfl⟩ | ⟨-, -, ⟨-, core⟩ | ⟨e, -, core⟩⟩
  · rfl
  · exact (Core.stop_ok core).2
  · exact (Core.stop_error core).2.2

/-- After a stop the handler is down, whatever became of the core. -/
theorem handler_stop_idle {o : Core.StopOutcome} {h after : RequestHandler Core} {r : Result Unit}
    (ran : h.stop coreLifecycle o = some (r, after)) : after.isRunning = false := by
  rcases RequestHandler.stop_cases ran with ⟨idle, -, rfl⟩ | ⟨-, idle, -⟩
  · exact idle
  · exact idle

/-- A stack with everything above the core down is nested. -/
theorem nested_of_down {config : InfrastructureConfig} {s : Stack} (flag : s.isRunning = false)
    (running : s.transport.isRunning = false) (server : s.transport.server = none)
    (handler : s.requestHandler.isRunning = false)
    (same : s.requestHandler.core.infrastructureConfig = config) : s.Nested config where
  controller h := by simp [flag] at h
  transport h := by simp [running, server] at h
  handler h := by simp [handler] at h
  config := same

theorem startAsync_nested {config : InfrastructureConfig} {s after : Stack} {r : Result Unit}
    {o : StartOutcome Core.StartOutcome Build Core.StopOutcome} (nested : s.Nested config)
    (bound : o.transport.Bound)
    (ran : s.startAsync GrpcTransport.lifecycle coreLifecycle o = some (r, after)) :
    after.Nested config := by
  rcases ApiController.startAsync_cases ran with ⟨e, handler, failed, -, rfl⟩ |
    ⟨handler, started, tail⟩
  · -- The handler's start failed: flags as before, and a running core is as before.
    obtain ⟨core, ⟨done, -⟩ | ⟨-, flag⟩⟩ := RequestHandler.start_cases failed
    · cases done
    · obtain ⟨-, same, refused⟩ := Core.start_error core
      refine ⟨nested.controller, fun up => flag.trans (nested.transport up), ?_,
        same.trans nested.config⟩
      intro running
      have serving := nested.handler (flag.symm.trans running)
      rw [refused serving.1]
      exact serving
  · obtain ⟨idle, serving, same, flag⟩ := nested.idle_of_start started
    obtain ⟨transportDown, noServer⟩ := nested.transport_down idle
    rcases tail with ⟨e, transport, r', handler', failed, rolledBack, -, rfl⟩ |
      ⟨transport, opened, -, rfl⟩
    · -- No server was built: the handler is stopped again.
      obtain ⟨server, unchanged⟩ := GrpcTransport.start_error bound (Option.some.inj failed)
      refine nested_of_down ?_ (unchanged.trans transportDown) server (handler_stop_idle rolledBack)
        ((handler_stop_config rolledBack).trans same)
      apply Bool.eq_false_iff.mpr
      intro running
      rw [(nested.controller running).1] at transportDown
      cases transportDown
    · obtain ⟨running, -, live⟩ := GrpcTransport.start_ok (Option.some.inj opened)
      obtain ⟨handlerEq, transportEq, -⟩ := ApiController.early_frame o.early
        { s with requestHandler := handler, transport, isRunning := true }
      refine ⟨?_, ?_, ?_, ?_⟩
      · intro _
        rw [transportEq]
        exact ⟨running, live⟩
      · intro _
        rw [handlerEq]
        exact flag
      · intro _
        rw [handlerEq]
        exact serving
      · rw [handlerEq]
        exact same

theorem stop_nested {config : InfrastructureConfig} {s after : Stack} {r : Result Unit}
    {o : StopOutcome Unit Core.StopOutcome} (nested : s.Nested config)
    (ran : s.stop GrpcTransport.lifecycle coreLifecycle o = some (r, after)) :
    after.Nested config := by
  rcases ApiController.stop_cases ran with ⟨-, -, rfl⟩ | ⟨running, lowered, stops⟩
  · exact nested
  · have closes := GrpcTransport.stop_running (nested.controller running).1
    have transportStop : GrpcTransport.lifecycle.stop o.transport s.transport =
        some (.ok (), GrpcTransport.new) := congrArg some closes
    rw [transportStop] at stops
    rcases stops with ⟨e, failed, -⟩ | ⟨closed, tail⟩
    · cases failed
    · have down : after.transport = GrpcTransport.new :=
        (Prod.mk.inj (Option.some.inj closed)).2.symm
      have handlerStop : ∃ r', s.requestHandler.stop coreLifecycle o.core =
          some (r', after.requestHandler) := by
        rcases tail with ⟨e, failed, -⟩ | ⟨stopped, -⟩
        · exact ⟨_, failed⟩
        · exact ⟨_, stopped⟩
      obtain ⟨r', stopped⟩ := handlerStop
      exact nested_of_down lowered (by rw [down]; rfl) (by rw [down]; rfl)
        (handler_stop_idle stopped) ((handler_stop_config stopped).trans nested.config)

theorem runLoopEnds_nested {config : InfrastructureConfig} {s : Stack} (nested : s.Nested config)
    (r : Result Unit) : Nested config (s.runLoopEnds r) where
  controller h := by
    rw [ApiController.runLoopEnds_transport]
    exact nested.controller (ApiController.runLoopEnds_isRunning h)
  transport h := by
    rw [ApiController.runLoopEnds_transport] at h
    rw [ApiController.runLoopEnds_requestHandler]
    exact nested.transport h
  handler h := by
    rw [ApiController.runLoopEnds_requestHandler] at h ⊢
    exact nested.handler h
  config := by
    rw [ApiController.runLoopEnds_requestHandler]
    exact nested.config

/-- One call, or one end of a run loop, keeps the layers nested. -/
theorem nested_step {config : InfrastructureConfig} {address : String} {s after : Stack}
    {e : StackEvent} (nested : s.Nested config) (bound : BoundBuild e)
    (ran : (machine config address).step e s = some after) : after.Nested config := by
  cases e with
  | startAsync o =>
      obtain ⟨⟨r, s'⟩, hstart, rfl⟩ := Option.map_eq_some_iff.mp ran
      exact startAsync_nested nested bound hstart
  | stop o =>
      obtain ⟨⟨r, s'⟩, hstop, rfl⟩ := Option.map_eq_some_iff.mp ran
      exact stop_nested nested hstop
  | runLoopEnds r =>
      cases ran
      exact runLoopEnds_nested nested r

/-- The layers are nested after every call of every run. -/
theorem layers_nested {config : InfrastructureConfig} {address : String} {s : Stack}
    (reach : Reachable config address s) : s.Nested config :=
  reach.invariant (nested_of_down rfl rfl rfl rfl rfl)
    fun _ _ _ nested bound ran => nested_step nested bound ran

/-- A start whose port is taken, one that works, a second one on top of it, and a
stop whose client shutdown throws in the video service. -/
def roughRun : List StackEvent :=
  [.startAsync ⟨.fine, .noServer, .fine, []⟩,
    .startAsync ⟨.fine, ⟨some 1, 50051⟩, .fine, [.ok ()]⟩,
    .startAsync ⟨.fine, ⟨some 2, 50051⟩, .fine, []⟩,
    .runLoopEnds (.ok ()),
    .stop ⟨(), ⟨⟨none, some (.channels, "GetState failed")⟩, .quiet⟩⟩]

theorem layers_nested_roughRun :
    ∃ s, (machine Core.pairedConfig "localhost:50051").exec roughRun
        (new Core.pairedConfig "localhost:50051") = some s ∧ s.Nested Core.pairedConfig := by
  have ends : ((machine Core.pairedConfig "localhost:50051").exec roughRun
      (new Core.pairedConfig "localhost:50051")).isSome = true := rfl
  obtain ⟨s, ran⟩ := Option.isSome_iff_exists.mp ends
  refine ⟨s, ran, layers_nested (.of_exec .init ?_ ran)⟩
  intro e mem
  simp only [roughRun, List.mem_cons, List.not_mem_nil, or_false] at mem
  rcases mem with rfl | rfl | rfl | rfl | rfl <;> simp [BoundBuild, Build.Bound, Build.noServer]

end Stack

end SensorCore.Api
