import SensorCore.Lib.Transition
import SensorCore.Clients.Routing

/-!
`Core::start` and `Core::stop`.

The core owns the client manager. A start replaces the manager that is there,
failed or not, by a new one and fills it; a stop shuts the manager down and drops
it. A manager's destructor shuts it down as well, and an exception that leaves a
destructor ends the process: the methods return `none` then.

`Core` carries the invariant that a running core has a manager, so the request
methods have a manager to ask. `Core.start_cases` and `Core.stop_cases` say
everything a call can do.

The main result is `Core.history_clean`: as long as shutting down does not throw,
no history of starts, failed starts and stops leaves anything behind that a later
start could see.
-/

namespace SensorCore

open SensorCore.Lib SensorCore.Config SensorCore.Clients

/-- What the outside world does during `Core::start`: the destructor of the
manager that is replaced, the channels and stubs, the clean-up of a failure. -/
structure Core.StartOutcome where
  discard : ShutdownOutcome
  net : Connect
  cleanup : ShutdownOutcome

/-- What the outside world does during `Core::stop`: the shutdown, and the
destructor of the manager afterwards. -/
structure Core.StopOutcome where
  shutdown : ShutdownOutcome
  discard : ShutdownOutcome

/-- Everything succeeds. -/
def Core.StartOutcome.fine : Core.StartOutcome := ⟨.quiet, .all, .quiet⟩

def Core.StopOutcome.fine : Core.StopOutcome := ⟨.quiet, .quiet⟩

/-- `~GrpcClientManager`: whether the process survives it. -/
def Core.survivesDestructor (outcome : ShutdownOutcome) : Option GrpcClientManager → Bool
  | none => true
  | some m => (m.shutdown outcome).1.isOk

/-- The core. When it is running it has a manager. -/
@[ext] structure Core where
  infrastructureConfig : InfrastructureConfig
  clientManager : Option GrpcClientManager
  isRunning : Bool
  managed : isRunning = true → clientManager.isSome = true

namespace Core

def new (config : InfrastructureConfig) : Core :=
  ⟨config, none, false, fun h => absurd h Bool.false_ne_true⟩

def start (o : StartOutcome) (c : Core) : Option (Result Unit × Core) :=
  if c.isRunning then some (.error "Core is already running", c)
  else if survivesDestructor o.discard c.clientManager then
    match GrpcClientManager.initializeClients o.net o.cleanup (.new c.infrastructureConfig) with
    | (.ok (), m) => some (.ok (), ⟨c.infrastructureConfig, some m, true, fun _ => rfl⟩)
    | (.error what, m) =>
        some (.error ("Failed to start Core: " ++ what),
          ⟨c.infrastructureConfig, some m, false, fun h => absurd h Bool.false_ne_true⟩)
  else none

/-- The running flag falls only when the manager is gone: a stop whose shutdown
throws leaves the core running. -/
def stop (o : StopOutcome) (c : Core) : Option (Result Unit × Core) :=
  if c.isRunning then
    match c.clientManager with
    | none => some (.ok (), new c.infrastructureConfig)
    | some m =>
        match m.shutdown o.shutdown with
        | (.error what, m) =>
            some (.error ("Failed to stop Core: " ++ what),
              ⟨c.infrastructureConfig, some m, c.isRunning, fun _ => rfl⟩)
        | (.ok (), m) =>
            if survivesDestructor o.discard (some m) then
              some (.ok (), new c.infrastructureConfig)
            else none
  else some (.ok (), c)

/-! ### What a call can do -/

/-- A start refuses, fails or succeeds. -/
theorem start_cases {o : StartOutcome} {c after : Core} {r : Result Unit}
    (ran : c.start o = some (r, after)) :
    (c.isRunning = true ∧ r = .error "Core is already running" ∧ after = c) ∨
    (c.isRunning = false ∧ after.infrastructureConfig = c.infrastructureConfig ∧
      ∃ m, after.clientManager = some m ∧
        ((r = .ok () ∧ after.isRunning = true ∧
            GrpcClientManager.initializeClients o.net o.cleanup (.new c.infrastructureConfig) =
              (.ok (), m)) ∨
          ∃ what, r = .error ("Failed to start Core: " ++ what) ∧ after.isRunning = false ∧
            GrpcClientManager.initializeClients o.net o.cleanup (.new c.infrastructureConfig) =
              (.error what, m))) := by
  unfold start at ran
  split at ran
  · rename_i running
    cases ran
    exact .inl ⟨running, rfl, rfl⟩
  · rename_i stopped
    refine .inr ⟨Bool.eq_false_iff.mpr stopped, ?_⟩
    split at ran
    · split at ran
      · rename_i m filled
        cases ran
        exact ⟨rfl, m, rfl, .inl ⟨rfl, rfl, filled⟩⟩
      · rename_i what m failed
        cases ran
        exact ⟨rfl, m, rfl, .inr ⟨what, rfl, rfl, failed⟩⟩
    · cases ran

/-- A stop does nothing, fails in the shutdown or takes the core down. -/
theorem stop_cases {o : StopOutcome} {c after : Core} {r : Result Unit}
    (ran : c.stop o = some (r, after)) :
    (c.isRunning = false ∧ r = .ok () ∧ after = c) ∨
    (c.isRunning = true ∧ after.infrastructureConfig = c.infrastructureConfig ∧
      ((r = .ok () ∧ after = new c.infrastructureConfig) ∨
        ∃ what m m', c.clientManager = some m ∧ m.shutdown o.shutdown = (.error what, m') ∧
          r = .error ("Failed to stop Core: " ++ what) ∧ after.clientManager = some m' ∧
          after.isRunning = true)) := by
  unfold stop at ran
  split at ran
  · rename_i running
    refine .inr ⟨running, ?_⟩
    split at ran
    · cases ran
      exact ⟨rfl, .inl ⟨rfl, rfl⟩⟩
    · rename_i m managed
      split at ran
      · rename_i what m' thrown
        cases ran
        exact ⟨rfl, .inr ⟨what, m, m', managed, thrown, rfl, rfl, running⟩⟩
      · split at ran
        · cases ran
          exact ⟨rfl, .inl ⟨rfl, rfl⟩⟩
        · cases ran
  · rename_i stopped
    cases ran
    exact .inl ⟨Bool.eq_false_iff.mpr stopped, rfl, rfl⟩

/-- No client and no channel of either service is left. -/
def NoClients (c : Core) : Prop :=
  ∀ m, c.clientManager = some m → m.camera = ServiceMaps.empty ∧ m.video = ServiceMaps.empty

/-- The core runs with exactly the clients its configuration lists. -/
def Serving (c : Core) : Prop :=
  c.isRunning = true ∧
    ∃ m, c.clientManager = some m ∧ m.config = c.infrastructureConfig ∧ m.Routed

theorem new_noClients (config : InfrastructureConfig) : (new config).NoClients :=
  fun _ h => absurd h (by simp [new])

/-- A start that succeeds serves the configuration. -/
theorem start_ok {o : StartOutcome} {c after : Core} (ran : c.start o = some (.ok (), after)) :
    c.isRunning = false ∧ after.infrastructureConfig = c.infrastructureConfig ∧
      after.Serving := by
  rcases start_cases ran with ⟨-, refused, -⟩ | ⟨stopped, config, m, managed, outcome⟩
  · cases refused
  · rcases outcome with ⟨-, running, filled⟩ | ⟨what, failed, -⟩
    · obtain ⟨same, routed⟩ := GrpcClientManager.initializeClients_ok filled
      exact ⟨stopped, config, running, m, managed, same.trans config.symm, routed⟩
    · cases failed

/-- A start that fails leaves the flag as it was. -/
theorem start_error {o : StartOutcome} {c after : Core} {what : String}
    (ran : c.start o = some (.error what, after)) :
    after.isRunning = c.isRunning ∧ after.infrastructureConfig = c.infrastructureConfig ∧
      (c.isRunning = true → after = c) := by
  rcases start_cases ran with ⟨-, -, rfl⟩ | ⟨stopped, config, m, -, outcome⟩
  · exact ⟨rfl, rfl, fun _ => rfl⟩
  · rcases outcome with ⟨succeeded, -⟩ | ⟨_, -, still, -⟩
    · cases succeeded
    · exact ⟨still.trans stopped.symm, config, fun running => by simp [stopped] at running⟩

/-- A stop that succeeds leaves the core down. -/
theorem stop_ok {o : StopOutcome} {c after : Core} (ran : c.stop o = some (.ok (), after)) :
    after.isRunning = false ∧ after.infrastructureConfig = c.infrastructureConfig := by
  rcases stop_cases ran with ⟨stopped, -, rfl⟩ | ⟨-, config, ⟨-, rfl⟩ | ⟨_, _, _, -, -, failed, -⟩⟩
  · exact ⟨stopped, rfl⟩
  · exact ⟨rfl, rfl⟩
  · cases failed

/-- A stop that fails leaves the core running. -/
theorem stop_error {o : StopOutcome} {c after : Core} {what : String}
    (ran : c.stop o = some (.error what, after)) :
    c.isRunning = true ∧ after.isRunning = true ∧
      after.infrastructureConfig = c.infrastructureConfig := by
  rcases stop_cases ran with ⟨-, done, -⟩ | ⟨running, config, ⟨done, -⟩ | ⟨_, _, _, -, -, -, -, still⟩⟩
  · cases done
  · cases done
  · exact ⟨running, still, config⟩

/-! ### Histories -/

inductive Event where
  | start (o : StartOutcome)
  | stop (o : StopOutcome)

/-- Closing the clients does not throw in this event. Creating them may fail. -/
def Event.Quiet : Event → Prop
  | .start o => o.discard = .quiet ∧ o.cleanup = .quiet
  | .stop o => o.shutdown = .quiet ∧ o.discard = .quiet

/-- A core under any sequence of starts and stops. -/
def machine (config : InfrastructureConfig) : Machine Core Event where
  init := new config
  step
    | .start o, c => (c.start o).map Prod.snd
    | .stop o, c => (c.stop o).map Prod.snd

/-- The cores reached by starts and stops that close their clients without a throw. -/
abbrev QuietReach (config : InfrastructureConfig) : Core → Prop :=
  (machine config).ReachVia fun _ e => e.Quiet

/-- Between calls a core serves its configuration or has no client at all. -/
structure Settled (config : InfrastructureConfig) (c : Core) : Prop where
  config : c.infrastructureConfig = config
  running : c.isRunning = true → c.Serving
  stopped : c.isRunning = false → c.NoClients

theorem start_error_noClients {o : StartOutcome} {c after : Core} {what : String}
    (quiet : o.cleanup = .quiet) (stopped : c.isRunning = false)
    (ran : c.start o = some (.error what, after)) :
    after.isRunning = false ∧ after.NoClients := by
  rcases start_cases ran with ⟨running, -⟩ | ⟨-, -, m, managed, ⟨done, -⟩ | ⟨what', -, still, failed⟩⟩
  · simp [stopped] at running
  · cases done
  · refine ⟨still, ?_⟩
    intro m' hm'
    rw [managed] at hm'
    cases hm'
    rw [quiet] at failed
    rw [GrpcClientManager.initializeClients_error failed]
    exact ⟨rfl, rfl⟩

theorem stop_noClients {o : StopOutcome} {config : InfrastructureConfig} {c after : Core}
    {r : Result Unit} (settled : c.Settled config) (quiet : o.shutdown = .quiet)
    (ran : c.stop o = some (r, after)) : r = .ok () ∧ after.isRunning = false ∧ after.NoClients := by
  rcases stop_cases ran with ⟨stopped, done, rfl⟩ | ⟨-, -, ⟨done, rfl⟩ | ⟨_, m, _, -, thrown, -⟩⟩
  · exact ⟨done, stopped, settled.stopped stopped⟩
  · exact ⟨done, rfl, new_noClients _⟩
  · rw [quiet] at thrown
    cases thrown

/-- One call keeps a core settled. -/
theorem settled_step {config : InfrastructureConfig} {c after : Core} {e : Event}
    (settled : c.Settled config) (quiet : e.Quiet)
    (ran : (machine config).step e c = some after) : after.Settled config := by
  cases e with
  | start o =>
      obtain ⟨⟨r, c'⟩, hstart, rfl⟩ := Option.map_eq_some_iff.mp ran
      cases r with
      | ok u =>
          obtain ⟨-, same, serving⟩ := start_ok hstart
          exact ⟨same.trans settled.config, fun _ => serving,
            fun stopped => by simp [serving.1] at stopped⟩
      | error what =>
          obtain ⟨flag, same, refused⟩ := start_error hstart
          cases running : c.isRunning with
          | true =>
              obtain rfl := refused running
              exact settled
          | false =>
              exact ⟨same.trans settled.config, fun h => by simp [flag, running] at h,
                fun _ => (start_error_noClients quiet.2 running hstart).2⟩
  | stop o =>
      obtain ⟨⟨r, c'⟩, hstop, rfl⟩ := Option.map_eq_some_iff.mp ran
      obtain ⟨rfl, down, none_left⟩ := stop_noClients settled quiet.1 hstop
      exact ⟨(stop_ok hstop).2.trans settled.config, fun h => by simp [down] at h,
        fun _ => none_left⟩

/-- Any history keeps a core settled. -/
theorem settled_of_reach {config : InfrastructureConfig} {c : Core}
    (reach : QuietReach config c) : c.Settled config :=
  reach.invariant ⟨rfl, fun h => absurd h Bool.false_ne_true, fun _ => new_noClients config⟩
    fun _ _ _ settled quiet ran => settled_step settled quiet ran

/-! ### What a history leaves behind -/

/-- One service is complete: the channel map and the client map have exactly the
listed ids as keys, and each client is built on the channel under its id. -/
structure Complete {C : Type} (stub : C → Channel) (is : List ServiceInstance)
    (maps : ServiceMaps C) : Prop where
  channelKeys : ∀ id, id ∈ maps.channels ↔ ∃ i ∈ is, i.id = id
  clientKeys : ∀ id, id ∈ maps.clients ↔ ∃ i ∈ is, i.id = id
  onChannel : ∀ id client, maps.clients.lookup id = some client →
    maps.channels.lookup id = some (stub client)

theorem complete_of_routed {C : Type} {stub : C → Channel} {config : InfrastructureConfig}
    {service : String} {maps : ServiceMaps C} (routed : maps.Routed stub (routes config service)) :
    Complete stub (instancesOf config service) maps where
  channelKeys id := by
    rw [← AList.lookup_isSome, routed.channels, route_isSome_iff]
  clientKeys id := by
    rw [← AList.lookup_isSome, ← Option.isSome_map, routed.clients, route_isSome_iff]
  onChannel id client found := by
    rw [routed.channels, ← routed.clients, found]
    rfl

/-- Both services are complete. -/
def Tables (config : InfrastructureConfig) (c : Core) : Prop :=
  ∃ m, c.clientManager = some m ∧
    Complete CameraServiceClient.stub (instancesOf config "camera_service") m.camera ∧
    Complete VideoServiceClient.stub (instancesOf config "video_service") m.video

/-- Two cores route every id of both services to the same address. -/
def SameRoutes (c c' : Core) : Prop :=
  ∃ m m', c.clientManager = some m ∧ c'.clientManager = some m' ∧ ∀ id,
    (m.camera.clients.lookup id).map (·.stub.target) =
      (m'.camera.clients.lookup id).map (·.stub.target) ∧
    (m.video.clients.lookup id).map (·.stub.target) =
      (m'.video.clients.lookup id).map (·.stub.target)

theorem serving_tables {config : InfrastructureConfig} {c : Core}
    (same : c.infrastructureConfig = config) (serving : c.Serving) : c.Tables config := by
  obtain ⟨-, m, managed, hconfig, routed⟩ := serving
  subst same
  refine ⟨m, managed, ?_, ?_⟩
  · rw [← hconfig]
    exact complete_of_routed routed.camera
  · rw [← hconfig]
    exact complete_of_routed routed.video

theorem serving_sameRoutes {c c' : Core} (same : c.infrastructureConfig = c'.infrastructureConfig)
    (serving : c.Serving) (serving' : c'.Serving) : c.SameRoutes c' := by
  obtain ⟨-, m, managed, hconfig, routed⟩ := serving
  obtain ⟨-, m', managed', hconfig', routed'⟩ := serving'
  have agree : m.config = m'.config := hconfig.trans (same.trans hconfig'.symm)
  have camera : ∀ id, (m.camera.clients.lookup id).map CameraServiceClient.stub =
      (m'.camera.clients.lookup id).map CameraServiceClient.stub := fun id => by
    rw [routed.camera.clients, routed'.camera.clients, agree]
  have video : ∀ id, (m.video.clients.lookup id).map VideoServiceClient.stub =
      (m'.video.clients.lookup id).map VideoServiceClient.stub := fun id => by
    rw [routed.video.clients, routed'.video.clients, agree]
  refine ⟨m, m', managed, managed', fun id => ⟨?_, ?_⟩⟩
  · have := congrArg (Option.map Channel.target) (camera id)
    simpa only [Option.map_map, Function.comp_def] using this
  · have := congrArg (Option.map Channel.target) (video id)
    simpa only [Option.map_map, Function.comp_def] using this

/-- What the calls that follow a history do. A start that succeeds has complete
tables, the same as those of a first start; one that fails leaves a stopped core
stopped and without clients, and a running core alone; a stop leaves no client. -/
structure CleanHistory (config : InfrastructureConfig) (c : Core) : Prop where
  started : ∀ o after, c.start o = some (.ok (), after) → after.Tables config
  restarted : ∀ o after o' first, c.start o = some (.ok (), after) →
    (new config).start o' = some (.ok (), first) → after.SameRoutes first
  failed : ∀ o after what, (Event.start o).Quiet → c.isRunning = false →
    c.start o = some (.error what, after) → after.isRunning = false ∧ after.NoClients
  refused : ∀ o after what, c.isRunning = true → c.start o = some (.error what, after) → after = c
  stopped : ∀ o after r, (Event.stop o).Quiet → c.stop o = some (r, after) →
    r = .ok () ∧ after.isRunning = false ∧ after.NoClients

/-- Every history of starts and stops is clean, whichever channels and stubs
fail in it, as long as closing the clients does not throw. -/
theorem history_clean {config : InfrastructureConfig} {c : Core} (reach : QuietReach config c) :
    c.CleanHistory config where
  started _ _ ran :=
    serving_tables ((start_ok ran).2.1.trans (settled_of_reach reach).config) (start_ok ran).2.2
  restarted _ _ _ _ ran first :=
    serving_sameRoutes ((start_ok ran).2.1.trans
      ((settled_of_reach reach).config.trans (start_ok first).2.1.symm))
      (start_ok ran).2.2 (start_ok first).2.2
  failed _ _ _ quiet stopped ran := start_error_noClients quiet.2 stopped ran
  refused _ _ _ running ran := (start_error ran).2.2 running
  stopped _ _ _ quiet ran := stop_noClients (settled_of_reach reach) quiet.1 ran

/-- Two services with the same two ids. -/
def pairedConfig : InfrastructureConfig :=
  ⟨UnorderedMap.emplace (UnorderedMap.emplace ∅
    "camera_service" ⟨[⟨0, "left:50050"⟩, ⟨1, "right:50050"⟩]⟩)
    "video_service" ⟨[⟨1, "right:50060"⟩, ⟨0, "left:50060"⟩]⟩⟩

/-- The second video stub is missing. -/
def videoStubMissing : StartOutcome :=
  ⟨.quiet, ⟨fun _ _ => true, fun service serial => service != "video_service" || serial != 1⟩, .quiet⟩

/-- A start that fails in the video service, one that succeeds, and a stop. -/
theorem history_clean_after_failure :
    ∃ c, (machine pairedConfig).exec
        [.start videoStubMissing, .start .fine, .stop .fine] (new pairedConfig) = some c ∧
      c.CleanHistory pairedConfig := by
  have ends : ((machine pairedConfig).exec
      [.start videoStubMissing, .start .fine, .stop .fine] (new pairedConfig)).isSome = true := rfl
  obtain ⟨c, ran⟩ := Option.isSome_iff_exists.mp ends
  refine ⟨c, ran, history_clean (.of_exec .init ?_ ran)⟩
  intro e mem
  simp only [List.mem_cons, List.not_mem_nil, or_false] at mem
  rcases mem with rfl | rfl | rfl <;> exact ⟨rfl, rfl⟩

end Core

end SensorCore
