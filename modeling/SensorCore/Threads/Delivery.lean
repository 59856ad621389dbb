import SensorCore.Threads.Progress

/-!
What concurrent RPCs are answered.

`answer` is how a request ends by the configuration alone: it is called on the last
instance that is listed under its id, or is not available, or its service is not
configured. `rpcs_answered` says that every RPC that any interleaving of starts, stops,
failures and other RPCs lets in ends so, and that the client it holds on its way is
that instance's.

The invariant is about the client manager (`Stocked`): wherever an RPC is in flight, and
from the successful `initialize` of a start to its end, the manager holds the routes of
the configuration. `ctrl_manager` says which steps replace the manager or its maps.
-/

namespace SensorCore.Clients.GrpcClientManager

open SensorCore.Lib SensorCore.Config

theorem isConfigured_eq_false_iff {C : Type} {stub : C → Channel}
    {routes : List (UInt32 × Channel)} {maps : ServiceMaps C} (routed : maps.Routed stub routes) :
    isConfigured maps.clients = false ↔ routes = [] := by
  rw [← Bool.not_eq_true, isConfigured_iff]
  constructor
  · intro unlisted
    by_contra listed
    obtain ⟨⟨id, channel⟩, mem⟩ := List.exists_mem_of_ne_nil _ listed
    have found : (lastValue id routes).isSome := by
      rw [lastValue_isSome_iff]
      exact List.mem_map_of_mem mem
    rw [← routed.clients, Option.isSome_map] at found
    exact unlisted ⟨id, found⟩
  · rintro rfl ⟨id, found⟩
    rw [← Option.isSome_map, routed.clients] at found
    cases found

/-- A lookup in maps that hold their routes. -/
theorem getServiceClient_routed {C : Type} {stub : C → Channel} {service : String}
    {routes : List (UInt32 × Channel)} {maps : ServiceMaps C} (routed : maps.Routed stub routes)
    (id : UInt32) :
    (getServiceClient service id maps.clients).map (Option.map stub) =
      if routes = [] then .error (service ++ " not configured") else .ok (lastValue id routes) := by
  cases configured : isConfigured maps.clients with
  | false =>
      rw [if_pos ((isConfigured_eq_false_iff routed).mp configured)]
      simp [getServiceClient, throwIf, configured, bind, Except.bind, Except.map]
  | true =>
      have listed : routes ≠ [] := by
        intro empty
        rw [(isConfigured_eq_false_iff routed).mpr empty] at configured
        cases configured
      rw [if_neg listed, getServiceClient_configured configured, ← routed.clients]
      rfl

theorem Routed.find_eq {m : GrpcClientManager} (routed : m.Routed) (cameraId : UInt32)
    (service : Service) :
    m.find cameraId service =
      if routes m.config service.name = [] then .error (service.name ++ " not configured")
      else .ok (lastValue cameraId (routes m.config service.name)) := by
  cases service with
  | camera => exact getServiceClient_routed routed.camera cameraId
  | video => exact getServiceClient_routed routed.video cameraId

end SensorCore.Clients.GrpcClientManager

namespace SensorCore.Threads

open SensorCore.Lib SensorCore.Config SensorCore.Clients SensorCore.Api

/-! ### The client manager -/

/-- The phases from the successful `initialize` of a start to its end. -/
def Phase.filled : Phase → Bool
  | .coreRaise | .handlerRaise | .build | .buildTest _ | .transportRaise | .apiRaise | .spawn
  | .join _ => true
  | _ => false

variable {config : InfrastructureConfig} {s s' : Sys}

namespace Sys

/-- A step keeps the manager and enters no phase that relies on it, or it makes a new
one, fills it, or empties it. -/
theorem ctrl_manager {w : World} (ran : s.ctrl config w = some s') :
    (s'.clientManager = s.clientManager ∧ (s'.phase.filled = true → s.phase.filled = true) ∧
      s'.phase ≠ .fillManager) ∨
    (s.phase = .newManager ∧ s'.clientManager = some (.new config) ∧ s'.phase = .fillManager) ∨
    (∃ m m', s.phase = .fillManager ∧ s.clientManager = some m ∧
      m.initializeServices w.net = (.ok (), m') ∧ s'.clientManager = some m' ∧
      s'.phase = .coreRaise) ∨
    ((s.phase = .fillManager ∨ s.phase = .cleanup ∨ s.phase = .clear ∨ s.phase = .managerReset) ∧
      s'.phase.filled = false ∧ s'.phase ≠ .fillManager) := by
  cases h : s.phase <;> simp only [ctrl, h] at ran
  case idle => cases ran
  case coreTest | apiTest | handlerTest | coreStopTest | buildTest =>
    split at ran
    · cases ran
      simp [complete, Phase.filled]
    · cases ran
      simp [complete, Phase.filled]
  case newManager =>
    split at ran
    · cases ran
      simp
    · cases ran
  case fillManager =>
    split at ran
    · cases ran
    · rename_i m managed
      split at ran
      · rename_i m' filled
        cases ran
        exact .inr (.inr (.inl ⟨m, m', rfl, managed, filled, rfl, rfl⟩))
      · cases ran
        simp [Phase.filled]
  case cleanup =>
    cases ran
    simp [complete, Phase.filled]
  case managerReset | join =>
    split at ran
    · cases ran
      simp [Phase.filled]
    · cases ran
  case shutdownReturn =>
    split at ran
    · cases ran
    · cases ran
      simp [Phase.filled]
  case coreRaise | handlerRaise | build | transportRaise | apiRaise | spawn | apiLower |
      shutdownCall | serverReset | transportLower | handlerLower | coreLower =>
    cases ran
    simp [complete, Sys.build, Phase.filled]
  case transportTest | serverTest =>
    cases ran
    refine .inl ⟨rfl, ?_⟩
    simp only
    split <;> simp [Phase.filled]
  case clear =>
    split at ran
    · cases ran
      simp [Phase.filled]
    · split at ran
      · cases ran
        simp [Phase.filled]
      · cases ran
        simp [complete, Phase.filled]

/-- The controlling thread lets RPCs in by building a server only. -/
theorem ctrl_busy {w : World} (ran : s.ctrl config w = some s') (busy : s'.Busy) :
    s.Busy ∨ s.phase = .build := by
  have rpcs := (ctrl_spends ran).2
  have same : s'.bound = s.bound → (∀ n, n ∈ s.shut → n ∈ s'.shut) → s.Busy := by
    intro bound shut
    rcases busy with ⟨server, accepts⟩ | ⟨r, mem, flying⟩
    · exact .inl ⟨server, bound ▸ accepts.1, fun closed => accepts.2 (shut server closed)⟩
    · exact .inr ⟨r, rpcs ▸ mem, flying⟩
  rcases ctrl_cases ran with ⟨_, rfl⟩ | ⟨_, _, _, rfl⟩ | ⟨h, _⟩ | ⟨_, rfl⟩ | ⟨_, rfl⟩ | ⟨frame, _⟩
  · exact .inl (same rfl fun _ mem => mem)
  · exact .inl (same rfl fun _ mem => mem)
  · exact .inr h
  · exact .inl (same rfl fun _ mem => List.mem_append_right _ mem)
  · exact .inl (same rfl fun _ mem => mem)
  · exact .inl (same frame.bound fun _ mem => by rwa [frame.shut])

/-- The manager holds the routes of the configuration. -/
def Managed (config : InfrastructureConfig) (s : Sys) : Prop :=
  ∃ m, s.clientManager = some m ∧ m.config = config ∧ m.Routed

/-- Wherever an RPC needs the manager or will need it, it holds its routes. -/
structure Stocked (config : InfrastructureConfig) (s : Sys) : Prop where
  filling : s.phase = .fillManager → s.clientManager = some (.new config)
  filled : s.phase.filled = true → s.Managed config
  busy : s.Busy → s.Managed config

theorem stocked_init (config : InfrastructureConfig) : Sys.init.Stocked config where
  filling h := by cases h
  filled h := by cases h
  busy busy := by
    rcases busy with ⟨server, accepts⟩ | ⟨r, mem, -⟩
    · exact absurd accepts.1 List.not_mem_nil
    · exact absurd mem List.not_mem_nil

theorem stocked_ctrl {w : World} (o : s.Orderly) (t : s.Stocked config)
    (ran : s.ctrl config w = some s') : s'.Stocked config := by
  have ok := o.phase
  rcases ctrl_manager ran with ⟨same, filled, unfilled⟩ | ⟨h, made, phase⟩ |
    ⟨m, m', h, managed, fills, stored, phase⟩ | ⟨h, emptied, unfilled⟩
  · -- the manager stays
    have kept : s.Managed config → s'.Managed config := by
      rintro ⟨m, managed, holds⟩
      exact ⟨m, same.trans managed, holds⟩
    refine ⟨fun at_ => absurd at_ unfilled, fun at_ => kept (t.filled (filled at_)), ?_⟩
    intro busy
    rcases ctrl_busy ran busy with before | building
    · exact kept (t.busy before)
    · exact kept (t.filled (by rw [building]; rfl))
  · -- a new manager
    rw [h] at ok
    refine ⟨fun _ => made, fun at_ => ?_, fun busy => ?_⟩
    · rw [phase] at at_
      cases at_
    · rcases ctrl_busy ran busy with before | building
      · exact absurd before ok
      · rw [h] at building
        cases building
  · -- `initialize` succeeds
    have holds : s'.Managed config := by
      obtain rfl : GrpcClientManager.new config = m := by
        rw [t.filling h, Option.some.injEq] at managed
        exact managed
      have whole : GrpcClientManager.initializeClients w.net .quiet (.new config) =
          (.ok (), m') := by
        rw [GrpcClientManager.initializeClients, fills]
      exact ⟨m', stored, GrpcClientManager.initializeClients_ok whole⟩
    refine ⟨fun at_ => ?_, fun _ => holds, fun _ => holds⟩
    rw [phase] at at_
    cases at_
  · -- the manager is emptied, with nothing in flight
    have quiet : ¬ s.Busy := by
      rcases h with h | h | h | h <;> rw [h] at ok <;> exact ok
    have unbuilt : s.phase ≠ .build := by
      rcases h with h | h | h | h <;> rw [h] <;> simp
    refine ⟨fun at_ => absurd at_ unfilled, fun at_ => ?_, fun busy => ?_⟩
    · rw [emptied] at at_
      cases at_
    · rcases ctrl_busy ran busy with before | building
      · exact absurd before quiet
      · exact absurd building unbuilt

/-- Every step keeps it. -/
theorem stocked_step {l : Label} (o : s.Orderly) (t : s.Stocked config)
    (ran : (machine config).step l s = some s') : s'.Stocked config := by
  have stepped := step_cases ran
  cases l with
  | startAsync | stop =>
      obtain ⟨-, rfl⟩ := stepped
      exact ⟨(by cases ·), (by cases ·), t.busy⟩
  | ctrl w => exact stocked_ctrl o t stepped
  | loop i =>
      obtain ⟨l, l', isRunning, -, -, rfl⟩ := stepped
      exact ⟨t.filling, t.filled, t.busy⟩
  | accept server service cameraId =>
      obtain ⟨accepts, rfl⟩ := stepped
      exact ⟨t.filling, t.filled, fun _ => t.busy (.inl ⟨server, accepts⟩)⟩
  | rpc i =>
      obtain ⟨r, stage, at_, next, rfl⟩ := stepped
      refine ⟨t.filling, t.filled, fun _ => t.busy (.inr ⟨r, ?_⟩)⟩
      exact ⟨List.mem_of_getElem? at_, inFlight_of_next next⟩

theorem stocked_of_reach (reach : (machine config).Reach s) : s.Stocked config :=
  reach.invariant_under (fun _ => orderly_of_reach) (stocked_init config)
    fun _ _ _ o t _ ran => stocked_step o t ran

end Sys

/-! ### The answers -/

/-- How a request ends by the configuration alone. -/
def answer (config : InfrastructureConfig) (service : Service) (cameraId : UInt32) : Outcome :=
  if routes config service.name = [] then .notConfigured
  else if (lastValue cameraId (routes config service.name)).isSome then .called
  else .unavailable

/-- The RPC is on its way to the configured instance, or has ended as it should. -/
def Rpc.Answered (config : InfrastructureConfig) (r : Rpc) : Prop :=
  (∀ client, r.stage = .holding client →
    lastValue r.cameraId (routes config r.service.name) = some client) ∧
  ∀ outcome, r.stage = .finished outcome → outcome = answer config r.service r.cameraId

theorem answer_called {service : Service} {cameraId : UInt32} {client : Channel}
    (route : lastValue cameraId (routes config service.name) = some client) :
    answer config service cameraId = .called := by
  have listed : routes config service.name ≠ [] := by
    intro empty
    rw [empty] at route
    cases route
  rw [answer, if_neg listed, route]
  rfl

theorem answered_rpc {r : Rpc} {stage : Stage} (up : s.Up) (managed : s.Managed config)
    (before : r.Answered config) (ran : r.next s = some stage) :
    Rpc.Answered config { r with stage } := by
  obtain ⟨handler, core, -⟩ := up
  cases at_ : r.stage <;> rw [Rpc.next, at_] at ran
  case accepted =>
    rw [handler] at ran
    cases ran
    exact ⟨by simp, by simp⟩
  case handlerTested =>
    rw [core] at ran
    cases ran
    exact ⟨by simp, by simp⟩
  case coreTested =>
    obtain ⟨m, found, rfl, routed⟩ := managed
    simp only [found, routed.find_eq] at ran
    by_cases listed : routes m.config r.service.name = []
    · rw [if_pos listed] at ran
      cases ran
      refine ⟨by simp, fun outcome ended => ?_⟩
      cases ended
      rw [answer, if_pos listed]
    · rw [if_neg listed] at ran
      cases route : lastValue r.cameraId (routes m.config r.service.name) with
      | none =>
          rw [route] at ran
          cases ran
          refine ⟨by simp, fun outcome ended => ?_⟩
          cases ended
          rw [answer, if_neg listed, route]
          rfl
      | some client =>
          rw [route] at ran
          cases ran
          refine ⟨fun client' holds => ?_, by simp⟩
          cases holds
          exact route
  case holding client =>
    cases ran
    refine ⟨by simp, fun outcome ended => ?_⟩
    cases ended
    exact (answer_called (before.1 client at_)).symm
  case finished => cases ran

theorem answered_step {l : Label} (o : s.Orderly) (t : s.Stocked config)
    (before : ∀ r ∈ s.rpcs, r.Answered config) (ran : (machine config).step l s = some s') :
    ∀ r ∈ s'.rpcs, r.Answered config := by
  have stepped := step_cases ran
  cases l with
  | startAsync | stop =>
      obtain ⟨-, rfl⟩ := stepped
      exact before
  | ctrl w =>
      rw [(Sys.ctrl_spends stepped).2]
      exact before
  | loop i =>
      obtain ⟨l, l', isRunning, -, -, rfl⟩ := stepped
      exact before
  | accept server service cameraId =>
      obtain ⟨-, rfl⟩ := stepped
      intro r mem
      rcases List.mem_append.mp mem with old | new
      · exact before r old
      · cases List.mem_singleton.mp new
        exact ⟨by simp, by simp⟩
  | rpc i =>
      obtain ⟨r, stage, at_, next, rfl⟩ := stepped
      have mem := List.mem_of_getElem? at_
      have busy : s.Busy := .inr ⟨r, mem, Sys.inFlight_of_next next⟩
      intro r' mem'
      rcases List.mem_or_eq_of_mem_set mem' with old | rfl
      · exact before r' old
      · exact answered_rpc (o.phase.up busy) (t.busy busy) (before r mem) next

/-- Whatever starts, stops and failures go on around it, an RPC that was let in ends as
the configuration says, and the client it calls is the one of the last instance that is
listed under its id. -/
theorem rpcs_answered (reach : (machine config).Reach s) : ∀ r ∈ s.rpcs, r.Answered config := by
  have known : ∀ s, (machine config).Reach s → s.Orderly ∧ s.Stocked config :=
    fun _ via => ⟨Sys.orderly_of_reach via, Sys.stocked_of_reach via⟩
  refine reach.invariant_under (I := fun s => ∀ r ∈ s.rpcs, r.Answered config) known ?_ ?_
  · intro r mem
    exact absurd mem List.not_mem_nil
  · intro s t l both before _ ran
    exact answered_step both.1 both.2 before ran

/-- Three RPCs of a start that is stopped and started again: one is accepted by each
server, and one holds its client while `Shutdown` is called. -/
def answeredRun : List Label :=
  .startAsync :: List.replicate 11 (Label.ctrl .fine) ++
    [Label.accept 0 .camera 1, .rpc 0, .rpc 0, .rpc 0, .accept 0 .video 7, .stop] ++
    List.replicate 5 (Label.ctrl .fine) ++
    [Label.rpc 1, .rpc 0, .rpc 1, .rpc 1, .loop 0, .loop 0, .loop 0] ++ List.replicate 9 (Label.ctrl .fine) ++
    [Label.startAsync] ++ List.replicate 11 (Label.ctrl .fine) ++
    [Label.accept 1 .video 0, .rpc 2, .rpc 2, .rpc 2]

theorem rpcs_answered_answeredRun :
    ∃ s, (machine Core.pairedConfig).exec answeredRun .init = some s ∧
      s.rpcs.map Rpc.stage = [.finished .called, .finished .unavailable,
        .holding ⟨"video_service", 1, "left:50060"⟩] ∧
      ∀ r ∈ s.rpcs, r.Answered Core.pairedConfig := by
  have ends : ((machine Core.pairedConfig).exec answeredRun .init).map
      (fun s => s.rpcs.map Rpc.stage) = some [.finished .called, .finished .unavailable,
        .holding ⟨"video_service", 1, "left:50060"⟩] := rfl
  obtain ⟨s, ran, stages⟩ := Option.map_eq_some_iff.mp ends
  exact ⟨s, ran, stages, rpcs_answered (.of_exec .init (fun _ _ => trivial) ran)⟩

end SensorCore.Threads
