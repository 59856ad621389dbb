import SensorCore.Api.Stack
import SensorCore.Core.Operations

/-!
What a failed start leaves behind.

A start can fail at three depths. A core that is running refuses, and nothing has
happened yet. A core that cannot make its clients cleans up after itself and stays
down. And a transport that cannot open its server has the handler stopped again, which
stops the core. `startAsync_error` says that there is nothing else: the stack is as
before, or the core was down and is down again with all flags and the transport as
before. The nesting of the layers carries this, because a rollback is only reached
over a core that was down.

`start_all_or_nothing` is the result. Clients count as available when a running core
has them. Clean-ups that throw may leave clients in the manager of a core that is
down; when none throws, the client tables themselves are as before.
-/

namespace SensorCore

open SensorCore.Lib SensorCore.Config SensorCore.Clients

/-- The clients that requests can be routed to. -/
def Core.available (c : Core) (cameraId : UInt32) (service : Service) : Option Channel :=
  if c.isRunning then c.table cameraId service else none

/-- A core without clients has empty tables. -/
theorem Core.NoClients.table_eq {c : Core} (empty : c.NoClients) (cameraId : UInt32)
    (service : Service) : c.table cameraId service = none := by
  unfold Core.table
  cases managed : c.clientManager with
  | none => rfl
  | some m =>
      obtain ⟨camera, video⟩ := empty m managed
      rw [Option.bind_some, GrpcClientManager.table.eq_def, camera, video]
      cases service <;> rfl

end SensorCore

namespace SensorCore.Api

open SensorCore.Lib SensorCore.Config SensorCore.Clients

namespace Stack

/-- The flags of all layers, the transport and the available clients are as before. -/
structure Untouched (s after : Stack) : Prop where
  controller : after.isRunning = s.isRunning
  transport : after.transport.isRunning = s.transport.isRunning ∧
    after.transport.server = s.transport.server
  handler : after.requestHandler.isRunning = s.requestHandler.isRunning
  core : after.requestHandler.core.isRunning = s.requestHandler.core.isRunning
  clients : ∀ cameraId service, after.requestHandler.core.available cameraId service =
    s.requestHandler.core.available cameraId service

theorem Untouched.refl (s : Stack) : s.Untouched s :=
  ⟨rfl, ⟨rfl, rfl⟩, rfl, rfl, fun _ _ => rfl⟩

/-- If this start gets as far as a rollback, the core is stopped there without an error. -/
def RollsBack (s : Stack) (o : StartOutcome Core.StartOutcome Build Core.StopOutcome) : Prop :=
  ∀ handler, s.requestHandler.start coreLifecycle o.core = some (.ok (), handler) →
    ∀ e core, Core.stop o.rollback handler.core ≠ some (.error e, core)

/-- Nothing throws while clients are closed in this event. -/
def Quiet : StackEvent → Prop
  | .startAsync o => (Core.Event.start o.core).Quiet ∧ (Core.Event.stop o.rollback).Quiet
  | .stop o => (Core.Event.stop o.core).Quiet
  | .runLoopEnds _ => True

/-- The stacks reached by calls that close their clients without a throw. -/
abbrev QuietReachable (config : InfrastructureConfig) (address : String) : Stack → Prop :=
  (machine config address).ReachVia fun _ e => BoundBuild e ∧ Quiet e

section Failure

variable {config : InfrastructureConfig} {s after : Stack} {e : String}
  {o : StartOutcome Core.StartOutcome Build Core.StopOutcome}

/-- A start of the handler that fails: a running core refused, or a core that was down
is down. -/
theorem handler_start_error {o : Core.StartOutcome} {h after : RequestHandler Core}
    (failed : h.start coreLifecycle o = some (.error e, after)) :
    (h.core.isRunning = true ∧ after = h) ∨
      (h.core.isRunning = false ∧ after.core.isRunning = false ∧
        after.isRunning = h.isRunning) := by
  obtain ⟨core, ⟨done, -⟩ | ⟨-, flag⟩⟩ := RequestHandler.start_cases failed
  · cases done
  · obtain ⟨still, -, refused⟩ := Core.start_error core
    cases running : h.core.isRunning with
    | true =>
        obtain ⟨afterCore, afterFlag⟩ := after
        obtain ⟨hCore, hFlag⟩ := h
        obtain rfl := refused running
        obtain rfl := flag
        exact .inl ⟨rfl, rfl⟩
    | false => exact .inr ⟨rfl, still.trans running, flag⟩

/-- The two outcomes of a start that fails and whose rollback does not. -/
theorem startAsync_error (nested : s.Nested config) (bound : o.transport.Bound)
    (rollback : s.RollsBack o)
    (failed : s.startAsync GrpcTransport.lifecycle coreLifecycle o = some (.error e, after)) :
    (s.requestHandler.core.isRunning = true ∧ after = s) ∨
      (s.requestHandler.core.isRunning = false ∧ after.requestHandler.core.isRunning = false ∧
        after.isRunning = s.isRunning ∧ after.transport = s.transport ∧
        after.requestHandler.isRunning = s.requestHandler.isRunning) := by
  rcases ApiController.startAsync_cases failed with ⟨e', handler, refused, -, rfl⟩ |
    ⟨handler, started, tail⟩
  · rcases handler_start_error refused with ⟨running, rfl⟩ | ⟨down, still, flag⟩
    · exact .inl ⟨running, rfl⟩
    · exact .inr ⟨down, still, rfl, rfl, flag⟩
  · obtain ⟨down, -⟩ := handler_start_ok started
    obtain ⟨idle, -, -, flag⟩ := nested.idle_of_start started
    obtain ⟨-, noServer⟩ := nested.transport_down idle
    rcases tail with ⟨e', transport, r', handler', unopened, rolledBack, -, rfl⟩ |
      ⟨transport, -, done, -⟩
    · obtain ⟨server, unchanged⟩ := GrpcTransport.start_error bound (Option.some.inj unopened)
      have sameTransport : transport = s.transport := by
        cases transport
        cases h : s.transport
        rw [h] at noServer unchanged
        simp_all
      have stopped : handler'.core.isRunning = false := by
        rcases RequestHandler.stop_cases rolledBack with ⟨stopped, -⟩ |
          ⟨-, -, ⟨-, core⟩ | ⟨e'', -, core⟩⟩
        · rw [flag] at stopped
          cases stopped
        · exact (Core.stop_ok core).1
        · exact absurd core (rollback handler started e'' _)
      exact .inr ⟨down, stopped, rfl, sameTransport, (handler_stop_idle rolledBack).trans idle.symm⟩
    · cases done

/-- A start that fails, and whose rollback does not, touches nothing. -/
theorem untouched_of_error (nested : s.Nested config) (bound : o.transport.Bound)
    (rollback : s.RollsBack o)
    (failed : s.startAsync GrpcTransport.lifecycle coreLifecycle o = some (.error e, after)) :
    s.Untouched after := by
  rcases startAsync_error nested bound rollback failed with ⟨-, rfl⟩ |
    ⟨down, still, controller, transport, handler⟩
  · exact .refl _
  · refine ⟨controller, ?_, handler, still.trans down.symm, ?_⟩
    · rw [transport]
      exact ⟨rfl, rfl⟩
    · intro cameraId service
      simp [Core.available, down, still]

end Failure

/-! ### Quiet histories -/

section Quiet

variable {config : InfrastructureConfig} {s after : Stack}

theorem handler_start_settled {o : Core.StartOutcome} {h after : RequestHandler Core}
    {r : Result Unit} (settled : h.core.Settled config) (quiet : (Core.Event.start o).Quiet)
    (ran : h.start coreLifecycle o = some (r, after)) : after.core.Settled config := by
  obtain ⟨core, -⟩ := RequestHandler.start_cases ran
  exact Core.settled_step settled quiet (Option.map_eq_some_iff.mpr ⟨_, core, rfl⟩)

theorem handler_stop_settled {o : Core.StopOutcome} {h after : RequestHandler Core}
    {r : Result Unit} (settled : h.core.Settled config) (quiet : (Core.Event.stop o).Quiet)
    (ran : h.stop coreLifecycle o = some (r, after)) : after.core.Settled config := by
  rcases RequestHandler.stop_cases ran with ⟨-, -, rfl⟩ | ⟨-, -, ⟨-, core⟩ | ⟨e, -, core⟩⟩
  · exact settled
  · exact Core.settled_step settled quiet (Option.map_eq_some_iff.mpr ⟨_, core, rfl⟩)
  · exact Core.settled_step settled quiet (Option.map_eq_some_iff.mpr ⟨_, core, rfl⟩)

theorem startAsync_settled {o : StartOutcome Core.StartOutcome Build Core.StopOutcome}
    {r : Result Unit} (settled : s.requestHandler.core.Settled config)
    (quiet : Quiet (.startAsync o))
    (ran : s.startAsync GrpcTransport.lifecycle coreLifecycle o = some (r, after)) :
    after.requestHandler.core.Settled config := by
  rcases ApiController.startAsync_cases ran with ⟨e, handler, failed, -, rfl⟩ |
    ⟨handler, started, tail⟩
  · exact handler_start_settled settled quiet.1 failed
  · have up := handler_start_settled settled quiet.1 started
    rcases tail with ⟨e, transport, r', handler', -, rolledBack, -, rfl⟩ | ⟨transport, -, -, rfl⟩
    · exact handler_stop_settled up quiet.2 rolledBack
    · rw [(ApiController.early_frame o.early _).1]
      exact up

theorem stop_settled {o : StopOutcome Unit Core.StopOutcome} {r : Result Unit}
    (settled : s.requestHandler.core.Settled config) (quiet : Quiet (.stop o))
    (ran : s.stop GrpcTransport.lifecycle coreLifecycle o = some (r, after)) :
    after.requestHandler.core.Settled config := by
  rcases ApiController.stop_cases ran with ⟨-, -, rfl⟩ | ⟨-, -, stops⟩
  · exact settled
  · rcases stops with ⟨e, -, same, -⟩ | ⟨-, ⟨e, failed, -⟩ | ⟨stopped, -⟩⟩
    · rw [same]
      exact settled
    · exact handler_stop_settled settled quiet failed
    · exact handler_stop_settled settled quiet stopped

/-- Calls that close their clients without a throw keep the core settled. -/
theorem core_settled {address : String} (reach : QuietReachable config address s) :
    s.requestHandler.core.Settled config := by
  refine reach.invariant (I := fun s : Stack => s.requestHandler.core.Settled config)
    (Core.settled_of_reach .init) ?_
  intro s after e settled quiet ran
  cases e with
  | startAsync o =>
      obtain ⟨⟨r, s'⟩, hstart, rfl⟩ := Option.map_eq_some_iff.mp ran
      exact startAsync_settled settled quiet.2 hstart
  | stop o =>
      obtain ⟨⟨r, s'⟩, hstop, rfl⟩ := Option.map_eq_some_iff.mp ran
      exact stop_settled settled quiet.2 hstop
  | runLoopEnds r =>
      cases ran
      rw [ApiController.runLoopEnds_requestHandler]
      exact settled

end Quiet

/-- After any calls, a start that fails leaves everything as it was: the flags of the
controller, the transport, the handler and the core, the server, and the available
clients. It is assumed that stopping the core does not fail in the rollback and that
gRPC returns no server without a port. When no call throws while it closes clients, the
client tables are as before as well. -/
theorem start_all_or_nothing {config : InfrastructureConfig} {address : String}
    {s after : Stack} {e : String} {o : StartOutcome Core.StartOutcome Build Core.StopOutcome}
    (reach : Reachable config address s) (bound : o.transport.Bound)
    (rollback : s.RollsBack o)
    (failed : s.startAsync GrpcTransport.lifecycle coreLifecycle o = some (.error e, after)) :
    s.Untouched after ∧
      (QuietReachable config address s → Quiet (.startAsync o) → ∀ cameraId service,
        after.requestHandler.core.table cameraId service =
          s.requestHandler.core.table cameraId service) := by
  have nested : s.Nested config :=
    reach.invariant (nested_of_down rfl rfl rfl rfl rfl)
      fun _ _ _ nested bound ran => nested_step nested bound ran
  refine ⟨untouched_of_error nested bound rollback failed, ?_⟩
  intro quietly quiet cameraId service
  have settled := core_settled quietly
  rcases startAsync_error nested bound rollback failed with ⟨-, rfl⟩ | ⟨down, still, -⟩
  · rfl
  · have settled' := startAsync_settled settled quiet failed
    rw [(settled.stopped down).table_eq, (settled'.stopped still).table_eq]

/-- A cycle without failures. -/
def cleanCycle : List StackEvent :=
  [.startAsync ⟨.fine, ⟨some 1, 50051⟩, .fine, []⟩, .runLoopEnds (.ok ()), .stop ⟨(), .fine⟩]

/-- A second start whose port is taken. -/
def portTaken : StartOutcome Core.StartOutcome Build Core.StopOutcome :=
  ⟨.fine, .noServer, .fine, []⟩

theorem start_all_or_nothing_portTaken :
    ∃ s e after, (machine Core.pairedConfig "localhost:50051").exec cleanCycle
        (new Core.pairedConfig "localhost:50051") = some s ∧
      s.startAsync GrpcTransport.lifecycle coreLifecycle portTaken = some (.error e, after) ∧
      s.Untouched after := by
  have ends : (((machine Core.pairedConfig "localhost:50051").exec cleanCycle
      (new Core.pairedConfig "localhost:50051")).bind fun s =>
        (s.startAsync GrpcTransport.lifecycle coreLifecycle portTaken).map Prod.fst) =
      some (.error "Failed to open server on: localhost:50051") := rfl
  obtain ⟨s, ran, tail⟩ := Option.bind_eq_some_iff.mp ends
  obtain ⟨⟨r, after⟩, failed, rfl⟩ := Option.map_eq_some_iff.mp tail
  have reach : Reachable Core.pairedConfig "localhost:50051" s := by
    refine .of_exec .init ?_ ran
    intro e mem
    simp only [cleanCycle, List.mem_cons, List.not_mem_nil, or_false] at mem
    rcases mem with rfl | rfl | rfl <;> simp [BoundBuild, Build.Bound]
  refine ⟨s, _, after, ran, failed, (start_all_or_nothing reach (by decide) ?_ failed).1⟩
  intro handler _ e core stopped
  rcases Core.stop_cases stopped with ⟨-, done, -⟩ | ⟨-, -, ⟨done, -⟩ | ⟨_, m, _, -, thrown, -⟩⟩
  · cases done
  · cases done
  · cases thrown

end Stack

end SensorCore.Api
