import Mathlib.Data.Finset.Dedup
import SensorCore.Lib.Checks
import SensorCore.Lib.UnorderedMap

/-!
The configuration records and their validators (`common/config/ConfigManager`).

A validator throws at the first check that fails. `InfrastructureConfig.validate_iff`
and `AppConfig.validate_iff` say what a configuration has passed when it is
accepted: `InfrastructureConfig.Valid` and `AppConfig.Valid`.

The client table is keyed by service name. Only two names mean anything to the
rest of the program, `camera_service` and `video_service`; their instance ids have
to agree as sets, which is the one check across clients.
-/

namespace SensorCore.Config

open SensorCore.Lib

/-! ### Records -/

structure ApiConfig where
  api : String
  serverAddress : String
  deriving DecidableEq, Repr

/-- Nothing is configured for the core. -/
structure CoreConfig where
  deriving DecidableEq, Repr

/-- One downstream server: the id requests are routed by, and its address. -/
structure ServiceInstance where
  id : UInt32
  address : String
  deriving DecidableEq, Repr

structure ClientConfig where
  instances : List ServiceInstance
  deriving DecidableEq, Repr

/-- Service name to client configuration. -/
structure InfrastructureConfig where
  clients : UnorderedMap String ClientConfig
  deriving DecidableEq

structure AppConfig where
  apiConfig : ApiConfig
  coreConfig : CoreConfig
  infrastructureConfig : InfrastructureConfig
  logLevel : String
  name : String
  deriving DecidableEq

/-! ### Validators -/

def validApis : List String := ["grpc"]

def validLogLevels : List String := ["trace", "debug", "info", "warn", "error", "critical"]

def ApiConfig.validate (c : ApiConfig) : Except String Unit := do
  throwIf (c.api = "") "API type cannot be empty"
  throwIf (c.api ∉ validApis) ("Invalid API type: " ++ c.api)
  throwIf (c.serverAddress = "") "Server address cannot be empty"
  throwIf (':' ∉ c.serverAddress.toList) "Server address must include port (format: host:port)"

/-- Accepts everything: the source keeps the validator as an empty body. -/
def CoreConfig.validate (_ : CoreConfig) : Except String Unit := .ok ()

def ServiceInstance.validate (i : ServiceInstance) : Except String Unit := do
  throwIf (i.address = "") "Service instance address cannot be empty"
  throwIf (':' ∉ i.address.toList)
    "Service instance address must include port (format: host:port)"

def ClientConfig.validate (c : ClientConfig) : Except String Unit := do
  throwIf (c.instances = []) "Client must have at least one instance configured"
  forM c.instances ServiceInstance.validate

/-- The ids of a client as a set: a repeated id counts once. -/
def ClientConfig.ids (c : ClientConfig) : Finset UInt32 :=
  (c.instances.map ServiceInstance.id).toFinset

/-- Every client on its own, then the ids of the two services against each other.
A missing service is not compared with anything. -/
def InfrastructureConfig.validate (c : InfrastructureConfig) : Except String Unit := do
  forM c.clients.entries fun entry => entry.2.validate
  match c.clients.lookup "camera_service", c.clients.lookup "video_service" with
  | some camera, some video =>
      throwIf (camera.ids ≠ video.ids)
        "camera_service and video_service must have matching instance IDs"
  | _, _ => .ok ()

def AppConfig.validate (c : AppConfig) : Except String Unit := do
  c.apiConfig.validate
  c.coreConfig.validate
  c.infrastructureConfig.validate
  throwIf (c.logLevel = "") "Log level cannot be empty"
  throwIf (c.logLevel ∉ validLogLevels) ("Invalid log level: " ++ c.logLevel)
  throwIf (c.name = "") "App name cannot be empty"

/-! ### What acceptance means -/

/-- An address passes when it is not empty and has a colon in it. -/
def AddressOk (address : String) : Prop := address ≠ "" ∧ ':' ∈ address.toList

/-- What an accepted client has passed. -/
def ClientConfig.Valid (c : ClientConfig) : Prop :=
  c.instances ≠ [] ∧ ∀ i ∈ c.instances, AddressOk i.address

/-- What an accepted infrastructure configuration has passed. -/
structure InfrastructureConfig.Valid (c : InfrastructureConfig) : Prop where
  clients : ∀ name client, c.clients.lookup name = some client → client.Valid
  paired : ∀ camera video, c.clients.lookup "camera_service" = some camera →
    c.clients.lookup "video_service" = some video → camera.ids = video.ids

/-- What an accepted application configuration has passed. -/
structure AppConfig.Valid (c : AppConfig) : Prop where
  api : c.apiConfig.api ∈ validApis
  serverAddress : AddressOk c.apiConfig.serverAddress
  infrastructure : c.infrastructureConfig.Valid
  logLevel : c.logLevel ∈ validLogLevels
  name : c.name ≠ ""

theorem ServiceInstance.validate_iff {i : ServiceInstance} :
    i.validate = .ok () ↔ AddressOk i.address := by
  simp [ServiceInstance.validate, AddressOk]

theorem ClientConfig.validate_iff {c : ClientConfig} : c.validate = .ok () ↔ c.Valid := by
  simp [ClientConfig.validate, ClientConfig.Valid, forM_eq_ok, ServiceInstance.validate_iff]

theorem ClientConfig.mem_ids {c : ClientConfig} {id : UInt32} :
    id ∈ c.ids ↔ ∃ i ∈ c.instances, i.id = id := by
  simp [ClientConfig.ids]

/-- The loop over the table reaches exactly the clients that lookups find. -/
theorem forall_entries_iff {m : UnorderedMap String ClientConfig} {p : ClientConfig → Prop} :
    (∀ entry ∈ m.entries, p entry.2) ↔ ∀ name client, m.lookup name = some client → p client := by
  constructor
  · intro all name client found
    exact all ⟨name, client⟩ (AList.mem_lookup_iff.mp found)
  · rintro all ⟨name, client⟩ mem
    exact all name client (AList.mem_lookup_iff.mpr mem)

theorem InfrastructureConfig.validate_iff {c : InfrastructureConfig} :
    c.validate = .ok () ↔ c.Valid := by
  have loop : forM (m := Except String) c.clients.entries
      (fun entry => ClientConfig.validate entry.2) = .ok () ↔
      ∀ name client, c.clients.lookup name = some client → client.Valid := by
    rw [forM_eq_ok]
    simp only [ClientConfig.validate_iff]
    exact forall_entries_iff
  unfold InfrastructureConfig.validate
  rw [check_bind_eq_ok]
  constructor
  · rintro ⟨clients, paired⟩
    refine ⟨loop.mp clients, ?_⟩
    intro camera video hcamera hvideo
    rw [hcamera, hvideo] at paired
    simpa using paired
  · rintro ⟨clients, paired⟩
    refine ⟨loop.mpr clients, ?_⟩
    split
    · rename_i camera video hcamera hvideo
      simpa using paired camera video hcamera hvideo
    · rfl

theorem ApiConfig.validate_iff {c : ApiConfig} :
    c.validate = .ok () ↔ c.api ∈ validApis ∧ AddressOk c.serverAddress := by
  have named : c.api ∈ validApis → c.api ≠ "" := by
    intro mem empty
    rw [empty] at mem
    exact absurd mem (by decide)
  simp only [ApiConfig.validate, check_bind_eq_ok, throwIf_eq_ok, AddressOk, not_not]
  constructor
  · rintro ⟨-, known, nonempty, colon⟩
    exact ⟨known, nonempty, colon⟩
  · rintro ⟨known, nonempty, colon⟩
    exact ⟨named known, known, nonempty, colon⟩

/-- `AppConfig.validate` accepts exactly the valid configurations. -/
theorem AppConfig.validate_iff {c : AppConfig} : c.validate = .ok () ↔ c.Valid := by
  have named : c.logLevel ∈ validLogLevels → c.logLevel ≠ "" := by
    intro mem empty
    rw [empty] at mem
    exact absurd mem (by decide)
  simp only [AppConfig.validate, check_bind_eq_ok, throwIf_eq_ok, ApiConfig.validate_iff,
    CoreConfig.validate, InfrastructureConfig.validate_iff, not_not]
  constructor
  · rintro ⟨⟨known, address⟩, -, infrastructure, -, level, name⟩
    exact ⟨known, address, infrastructure, level, name⟩
  · intro valid
    exact ⟨⟨valid.api, valid.serverAddress⟩, trivial, valid.infrastructure,
      named valid.logLevel, valid.logLevel, valid.name⟩

end SensorCore.Config
