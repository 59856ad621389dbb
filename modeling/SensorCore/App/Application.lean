import SensorCore.Api.Factory
import SensorCore.App.Process
import SensorCore.Config.Grammar

/-!
`Application`: from a configuration file to the answers of RPCs.

`initializeApplication` loads and checks the file, makes the core and lets the factory
make the controller; whatever throws on the way becomes its result. The rest of
`Application` is part of `App.Process`.

`file_to_answers` goes all the way: in the process that `main` runs on a configuration
file, under any schedule and any signals, an RPC gets to an address only if the file lists
it under the service and the id of the request, and ends as the file says. A file that is
not accepted, or a missing address, starts nothing at all.
-/

namespace SensorCore.Api

/-- `what()` of an exception. -/
def Exception.what : Exception → String
  | .invalidArgument what | .runtimeError what => what

end SensorCore.Api

namespace SensorCore.App

open SensorCore.Lib SensorCore.Config SensorCore.Clients SensorCore.Network SensorCore.Api
  SensorCore.Threads

/-- `CoreFactory`. -/
def CoreFactory.createCore (config : InfrastructureConfig) : Option Core := some (Core.new config)

structure Application where
  configFile : String
  config : Option AppConfig
  apiController : Option Stack

namespace Application

def new (configFile : String) : Application := ⟨configFile, none, none⟩

/-- What the file system, the network interfaces and the library functions give. -/
structure Surroundings where
  decode : String → Option UInt32
  files : String → ConfigManager.File
  std : Sorter ByPriority
  ifaddr : Except String (List IfAddrs)

/-- `Application::initialize`. -/
def initializeApplication (env : Surroundings) (app : Application) : Result Unit × Application :=
  match ConfigManager.new env.decode app.configFile (env.files app.configFile) with
  | .error what => (.error what, app)
  | .ok config =>
      let app := { app with config := some config }
      let core := CoreFactory.createCore config.infrastructureConfig
      match ApiControllerFactory.createController env.std env.ifaddr core config.apiConfig with
      | .error e => (.error e.what, app)
      | .ok controller => (.ok (), { app with apiController := some controller })

/-- The configuration that the core of the application has. -/
def infrastructureConfig (app : Application) : InfrastructureConfig :=
  match app.apiController with
  | none => ⟨∅⟩
  | some controller => controller.requestHandler.core.infrastructureConfig

/-- `main` on a configuration file, with everything that can happen around it. -/
def main (env : Surroundings) (configFile : String) : Machine Process Event :=
  let (initialized, app) := initializeApplication env (new configFile)
  process initialized.isOk app.infrastructureConfig

/-- The address that the server of a configuration binds to. -/
def bindAddress (env : Surroundings) (c : AppConfig) : Except Exception String :=
  ApiControllerFactory.bindAddress env.std env.ifaddr c.apiConfig.serverAddress

variable {env : Surroundings} {app ready : Application} {r : Result Unit}

/-- The application is initialized when the file loads and there is an address to bind
to; the controller is the stack of the loaded configuration. -/
theorem initializeApplication_cases (ran : initializeApplication env app = (r, ready)) :
    (∃ c address, ConfigManager.new env.decode app.configFile (env.files app.configFile) = .ok c ∧
      bindAddress env c = .ok address ∧ r = .ok () ∧
      ready.apiController = some (Stack.new c.infrastructureConfig address)) ∨
    ((∀ c, ConfigManager.new env.decode app.configFile (env.files app.configFile) = .ok c →
        ∃ e, bindAddress env c = .error e) ∧
      ∃ what, r = .error what) := by
  unfold initializeApplication at ran
  split at ran
  · rename_i refused
    cases ran
    rw [refused]
    exact .inr ⟨by simp, _, rfl⟩
  · rename_i c loaded
    obtain ⟨tree, appNode, -, -, accepted⟩ := ConfigManager.accepted_of_new loaded
    have valid : c.apiConfig.validate = .ok () :=
      ApiConfig.validate_iff.mpr ⟨accepted.valid.api, accepted.valid.serverAddress⟩
    cases bound : bindAddress env c with
    | error e =>
        rw [bindAddress] at bound
        simp only [CoreFactory.createCore,
          ApiControllerFactory.createController_accepted _ valid, bound] at ran
        cases ran
        refine .inr ⟨fun c' loaded' => ?_, _, rfl⟩
        rw [loaded] at loaded'
        cases loaded'
        exact ⟨e, bound⟩
    | ok address =>
        rw [bindAddress] at bound
        simp only [CoreFactory.createCore,
          ApiControllerFactory.createController_stack _ valid bound] at ran
        cases ran
        exact .inl ⟨c, address, loaded, bound, rfl, rfl⟩

/-! ### From the file to the answers -/

/-- Without an initialized application no thread ever does anything. -/
theorem unbooted {config : InfrastructureConfig} {p : Process}
    (reach : (process false config).Reach p) :
    p.sys = .init ∧ (p.main = .initializing ∨ p.main = .exited .failure) := by
  refine reach.invariant (I := fun p => p.sys = .init ∧
    (p.main = .initializing ∨ p.main = .exited .failure)) ⟨rfl, .inl rfl⟩ ?_
  rintro ⟨main, s, requested⟩ p' e ⟨rfl, at_⟩ - ran
  rcases process_cases ran with ⟨w, -, next⟩ | ⟨-, -, rfl⟩ | ⟨l, s, other, -, step, rfl⟩
  · rcases at_ with rfl | rfl
    · cases next
      exact ⟨rfl, .inr rfl⟩
    · cases next
  · exact ⟨rfl, at_⟩
  · -- there is no server, no run loop and no RPC
    cases e with
    | main _ | signal => cases other
    | loop _ | rpc _ =>
        cases other
        cases step
    | accept server service cameraId =>
        cases other
        obtain ⟨accepts, -⟩ := Threads.step_cases step
        exact absurd accepts.1 List.not_mem_nil

/-- Either the file describes a configuration and there is an address to bind to: then the
stack is up while `run` polls, an RPC holds the client of an address only if the file has
it under its service and id, and ends as the configuration says. Or nothing starts, and
`main` fails. -/
theorem file_to_answers {configFile : String} {p : Process}
    (reach : (main env configFile).Reach p) :
    (∃ tree appNode c address, env.files configFile = some (.ok tree) ∧
      tree.get "app" = .ok (some appNode) ∧ ConfigManager.Accepted env.decode appNode c ∧
      bindAddress env c = .ok address ∧
      (p.main.Polls → Serving c.infrastructureConfig p.sys) ∧
      ∀ r ∈ p.sys.rpcs,
        (∀ client, r.stage = .holding client → AddressOk client.target ∧
          ConfigManager.Written env.decode appNode r.service.name ⟨r.cameraId, client.target⟩) ∧
        ∀ outcome, r.stage = .finished outcome →
          outcome = answer c.infrastructureConfig r.service r.cameraId) ∨
    ((∀ c, ConfigManager.new env.decode configFile (env.files configFile) = .ok c →
        ∃ e, bindAddress env c = .error e) ∧
      p.sys = .init ∧ (p.main = .initializing ∨ p.main = .exited .failure)) := by
  rcases initialized : initializeApplication env (new configFile) with ⟨r, ready⟩
  have starts : main env configFile = process r.isOk ready.infrastructureConfig := by
    rw [main, initialized]
  rw [starts] at reach
  rcases initializeApplication_cases initialized with ⟨c, address, loaded, bound, rfl, controller⟩ |
    ⟨unbound, what, rfl⟩
  · obtain ⟨tree, appNode, file, app, accepted⟩ := ConfigManager.accepted_of_new loaded
    have same : ready.infrastructureConfig = c.infrastructureConfig := by
      rw [infrastructureConfig, controller]
      rfl
    rw [same] at reach
    have sound := sound_of_reach reach
    refine .inl ⟨tree, appNode, c, address, file, app, accepted, bound, ?_, ?_⟩
    · exact sound.serving
    · intro r mem
      obtain ⟨holds, ends⟩ := sound.consistent.answered r mem
      refine ⟨fun client holding => ?_, ends⟩
      obtain ⟨-, listed⟩ := route_listed (holds client holding)
      unfold instancesOf at listed
      split at listed
      · cases listed
      · rename_i config found
        have valid := accepted.valid.infrastructure.clients _ config found
        exact ⟨valid.2 _ listed, accepted.written found listed⟩
  · obtain ⟨still, at_⟩ := unbooted reach
    exact .inr ⟨unbound, still, at_⟩

/-- A device with one network card and a configuration file. -/
def device : Surroundings where
  decode := ConfigManager.readDecimal
  files _ := some (.ok ConfigManager.handwrittenTree)
  std := .insertion _
  ifaddr := .ok [⟨"eth0", some ⟨afInet, ⟨10, 0, 0, 1⟩⟩, 0x1⟩]

/-- The start, and an RPC that has got its client. -/
def deviceRun : List Event :=
  List.replicate 14 (Event.main .fine) ++ [Event.accept 0 .camera 0, .rpc 0, .rpc 0, .rpc 0]

theorem file_to_answers_device :
    ∃ p, (main device "config.yaml").exec deviceRun .init = some p ∧
      p.sys.rpcs = [⟨0, .camera, 0, .holding ⟨"camera_service", 0, "camera:50050"⟩⟩] ∧
      ∃ appNode, ConfigManager.handwrittenTree.get "app" = .ok (some appNode) ∧
        ConfigManager.Written ConfigManager.readDecimal appNode "camera_service"
          ⟨0, "camera:50050"⟩ := by
  have ends : ((main device "config.yaml").exec deviceRun .init).map (fun p => p.sys.rpcs) =
      some [⟨0, .camera, 0, .holding ⟨"camera_service", 0, "camera:50050"⟩⟩] := rfl
  obtain ⟨p, ran, rpcs⟩ := Option.map_eq_some_iff.mp ends
  rcases file_to_answers (.of_exec .init (fun _ _ => trivial) ran) with
    ⟨tree, appNode, c, address, ⟨⟩, app, -, -, -, answered⟩ | ⟨-, still, -⟩
  · refine ⟨p, ran, rpcs, appNode, app, ?_⟩
    rw [rpcs] at answered
    exact ((answered _ (List.mem_singleton_self _)).1 _ rfl).2
  · rw [still] at rpcs
    cases rpcs

end Application

end SensorCore.App
