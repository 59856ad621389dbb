import SensorCore.Config.Model

/-!
`GrpcClientManager`: the clients of the two downstream services.

The manager keeps, for each service, a map of channels and a map of clients by
instance id. `initialize` fills them from the configuration, `shutdown` empties
them; both are loops that can throw half way, so every operation returns the maps
as they are when it ends, thrown or not.

What gRPC does is given by the caller: `Connect` says which channels and stubs
come into being, `ShutdownOutcome` where closing a service throws.
-/

namespace SensorCore.Clients

open SensorCore.Lib SensorCore.Config

/-! ### Channels and clients -/

/-- A gRPC channel: the `serial`-th that was created for a service, and the
address it was created for. -/
structure Channel where
  service : String
  serial : Nat
  target : String
  deriving DecidableEq, Repr

/-- The client of `camera_service`: a stub on a channel. -/
structure CameraServiceClient where
  stub : Channel
  deriving DecidableEq, Repr

/-- The client of `video_service`: a stub on a channel. -/
structure VideoServiceClient where
  stub : Channel
  deriving DecidableEq, Repr

/-- Which channels and stubs gRPC creates, by service and position in the
service's instance list. -/
structure Connect where
  channel : String → Nat → Bool
  stub : String → Nat → Bool

/-- gRPC creates everything it is asked for. -/
def Connect.all : Connect := ⟨fun _ _ => true, fun _ _ => true⟩

def createChannel (net : Connect) (service : String) (serial : Nat) (address : String) :
    Except String Channel := do
  throwIf (address = "") "Service address cannot be empty"
  throwIf (net.channel service serial = false) ("Failed to create gRPC channel to " ++ address)
  return ⟨service, serial, address⟩

/-- A client constructor: it throws when the stub is missing. -/
def newClient {C : Type} (make : Channel → C) (missing : String) (net : Connect)
    (channel : Channel) : Except String C := do
  throwIf (net.stub channel.service channel.serial = false) missing
  return make channel

def CameraServiceClient.new : Connect → Channel → Except String CameraServiceClient :=
  newClient CameraServiceClient.mk "Failed to create camera_service stub"

def VideoServiceClient.new : Connect → Channel → Except String VideoServiceClient :=
  newClient VideoServiceClient.mk "Failed to create video_service stub"

/-- The two maps that are passed by reference to `initializeService` and
`shutdownService`. -/
structure ServiceMaps (C : Type) where
  channels : UnorderedMap UInt32 Channel
  clients : UnorderedMap UInt32 C
  deriving DecidableEq

def ServiceMaps.empty {C : Type} : ServiceMaps C := ⟨∅, ∅⟩

section Service

variable {C : Type} (net : Connect) (service : String) (factory : Channel → Except String C)

/-- The instance loop. A channel is stored before its client is made, so a throw
of the factory leaves a channel without its client behind. -/
def initializeInstances : Nat → List ServiceInstance → ServiceMaps C →
    Except String Unit × ServiceMaps C
  | _, [], maps => (.ok (), maps)
  | serial, i :: rest, maps =>
      match createChannel net service serial i.address with
      | .error what => (.error what, maps)
      | .ok channel =>
          let maps := { maps with channels := maps.channels.insert i.id channel }
          match factory channel with
          | .error what => (.error what, maps)
          | .ok client =>
              initializeInstances (serial + 1) rest
                { maps with clients := maps.clients.insert i.id client }

def initializeService (config : InfrastructureConfig) (maps : ServiceMaps C) :
    Except String Unit × ServiceMaps C :=
  match config.clients.lookup service with
  | none => (.ok (), maps)
  | some serviceConfig =>
      if serviceConfig.instances = [] then (.ok (), maps)
      else initializeInstances net service factory 0 serviceConfig.instances maps

end Service

/-- The two loops of `shutdownService` in which something can throw. -/
inductive ShutdownStage where
  | clients
  | channels
  deriving DecidableEq, Repr

/-- Where closing one service throws, and what; `none` when it does not. -/
abbrev ServiceShutdown := Option (ShutdownStage × String)

def shutdownService {C : Type} (throws : ServiceShutdown) (maps : ServiceMaps C) :
    Except String Unit × ServiceMaps C :=
  match throws with
  | none => (.ok (), ServiceMaps.empty)
  | some (.clients, what) => (.error what, maps)
  | some (.channels, what) => (.error what, { maps with clients := ∅ })

/-- Where closing the two services throws. -/
structure ShutdownOutcome where
  camera : ServiceShutdown
  video : ServiceShutdown
  deriving DecidableEq

/-- Nothing throws. -/
def ShutdownOutcome.quiet : ShutdownOutcome := ⟨none, none⟩

/-! ### The manager -/

structure GrpcClientManager where
  config : InfrastructureConfig
  camera : ServiceMaps CameraServiceClient
  video : ServiceMaps VideoServiceClient
  deriving DecidableEq

namespace GrpcClientManager

def new (config : InfrastructureConfig) : GrpcClientManager :=
  ⟨config, ServiceMaps.empty, ServiceMaps.empty⟩

/-- Camera first; a throw there leaves the video maps alone. -/
def shutdown (outcome : ShutdownOutcome) (m : GrpcClientManager) :
    Except String Unit × GrpcClientManager :=
  match shutdownService outcome.camera m.camera with
  | (.error what, camera) => (.error what, { m with camera })
  | (.ok (), camera) =>
      match shutdownService outcome.video m.video with
      | (result, video) => (result, { m with camera, video })

/-- The body of the `try` in `initialize`. -/
def initializeServices (net : Connect) (m : GrpcClientManager) :
    Except String Unit × GrpcClientManager :=
  match initializeService net "camera_service" (CameraServiceClient.new net) m.config m.camera with
  | (.error what, camera) => (.error what, { m with camera })
  | (.ok (), camera) =>
      match initializeService net "video_service" (VideoServiceClient.new net) m.config m.video with
      | (result, video) => (result, { m with camera, video })

/-- `GrpcClientManager::initialize`. On a throw everything is shut down again and
the exception goes on; when the clean-up throws too, its exception goes on. -/
def initializeClients (net : Connect) (cleanup : ShutdownOutcome) (m : GrpcClientManager) :
    Except String Unit × GrpcClientManager :=
  match initializeServices net m with
  | (.ok (), filled) => (.ok (), filled)
  | (.error what, partly) =>
      match shutdown cleanup partly with
      | (.ok (), cleaned) => (.error what, cleaned)
      | (.error what', cleaned) => (.error what', cleaned)

/-! ### Routing -/

/-- `InstanceRouter::isConfigured`: at least one client is there. -/
def isConfigured {C : Type} (clients : UnorderedMap UInt32 C) : Bool := !clients.entries.isEmpty

/-- `InstanceRouter::getClient`: `none` is the null pointer. -/
def getClient {C : Type} (id : UInt32) (clients : UnorderedMap UInt32 C) : Option C :=
  clients.lookup id

def getServiceClient {C : Type} (service : String) (id : UInt32)
    (clients : UnorderedMap UInt32 C) : Except String (Option C) := do
  throwIf (isConfigured clients = false) (service ++ " not configured")
  return getClient id clients

def getCameraServiceClient (m : GrpcClientManager) (id : UInt32) :
    Except String (Option CameraServiceClient) :=
  getServiceClient "camera_service" id m.camera.clients

def getVideoServiceClient (m : GrpcClientManager) (id : UInt32) :
    Except String (Option VideoServiceClient) :=
  getServiceClient "video_service" id m.video.clients

end GrpcClientManager

end SensorCore.Clients
