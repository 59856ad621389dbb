import SensorCore.Clients.Calls
import SensorCore.Core.Lifecycle

/-!
The request methods of the core.

Each method is `withClient` at its own service and name: the core must be running,
the service's lookup must not throw, and the client must be there; then the method
of the client is called.

`Core.route` is what all methods of one service have in common: the channel a
request goes to, or the text it is refused with. `withCameraClient_eq` and
`withVideoClient_eq` reduce a method to its route, and `route_ok_iff` says when
there is one: the core runs and the table of the service has a client under the id.
-/

/-! ### Tables -/

namespace SensorCore.Clients

open SensorCore.Lib

/-- The two downstream services. -/
inductive Service where
  | camera
  | video
  deriving DecidableEq, Repr

def Service.name : Service → String
  | .camera => "camera_service"
  | .video => "video_service"

namespace GrpcClientManager

/-- A lookup through the router, as the channel of the client. -/
def find (m : GrpcClientManager) (cameraId : UInt32) : Service → Except String (Option Channel)
  | .camera => (m.getCameraServiceClient cameraId).map (Option.map CameraServiceClient.stub)
  | .video => (m.getVideoServiceClient cameraId).map (Option.map VideoServiceClient.stub)

/-- The channel of the client that the map of a service has under an id. -/
def table (m : GrpcClientManager) (cameraId : UInt32) : Service → Option Channel
  | .camera => (m.camera.clients.lookup cameraId).map CameraServiceClient.stub
  | .video => (m.video.clients.lookup cameraId).map VideoServiceClient.stub

/-- With any camera client in the map, a lookup does not throw. -/
theorem getCameraServiceClient_eq {m : GrpcClientManager} {other : UInt32}
    (configured : (m.table other .camera).isSome) (cameraId : UInt32) :
    m.getCameraServiceClient cameraId = .ok (m.camera.clients.lookup cameraId) :=
  getServiceClient_configured
    (isConfigured_iff.mpr ⟨other, by simpa [table] using configured⟩) cameraId

/-- With any video client in the map, a lookup does not throw. -/
theorem getVideoServiceClient_eq {m : GrpcClientManager} {other : UInt32}
    (configured : (m.table other .video).isSome) (cameraId : UInt32) :
    m.getVideoServiceClient cameraId = .ok (m.video.clients.lookup cameraId) :=
  getServiceClient_configured
    (isConfigured_iff.mpr ⟨other, by simpa [table] using configured⟩) cameraId

/-- With any client of the service in its map, the router reads the map. -/
theorem find_configured {m : GrpcClientManager} {service : Service} {other : UInt32}
    (configured : (m.table other service).isSome) (cameraId : UInt32) :
    m.find cameraId service = .ok (m.table cameraId service) := by
  cases service with
  | camera =>
      rw [find, getCameraServiceClient_eq configured]
      rfl
  | video =>
      rw [find, getVideoServiceClient_eq configured]
      rfl

/-- A lookup that finds a channel has found its client in the map. -/
theorem lookup_of_found {C : Type} {stub : C → Channel} {service : String} {cameraId : UInt32}
    {clients : UnorderedMap UInt32 C} {channel : Channel}
    (found : (getServiceClient service cameraId clients).map (Option.map stub) =
      .ok (some channel)) :
    (clients.lookup cameraId).map stub = some channel := by
  cases h : getServiceClient service cameraId clients with
  | error what =>
      rw [h] at found
      cases found
  | ok client =>
      simp only [h, Except.map, Except.ok.injEq] at found
      obtain ⟨client, rfl, rfl⟩ := Option.map_eq_some_iff.mp found
      rw [getServiceClient_found_iff.mp h, Option.map_some]

/-- The router finds exactly the clients in the map. -/
theorem find_found_iff {m : GrpcClientManager} {service : Service} {cameraId : UInt32}
    {channel : Channel} :
    m.find cameraId service = .ok (some channel) ↔ m.table cameraId service = some channel := by
  constructor
  · intro found
    cases service with
    | camera => exact lookup_of_found found
    | video => exact lookup_of_found found
  · intro found
    rw [find_configured (by rw [found]; rfl), found]

/-- The tables of a manager that holds its routes. -/
theorem Routed.table_eq {m : GrpcClientManager} (routed : m.Routed) (cameraId : UInt32)
    (service : Service) :
    m.table cameraId service = lastValue cameraId (routes m.config service.name) := by
  cases service with
  | camera => exact routed.camera.clients cameraId
  | video => exact routed.video.clients cameraId

end GrpcClientManager

end SensorCore.Clients

/-! ### Request methods -/

namespace SensorCore.Core

open SensorCore.Lib SensorCore.Clients

/-- The manager of a running core. -/
def manager (c : Core) (running : c.isRunning = true) : GrpcClientManager :=
  c.clientManager.get (c.managed running)

/-- The common body of the request methods. -/
def withClient {C α : Type} (service : Service) (operation : String)
    (find : GrpcClientManager → UInt32 → Except String (Option C)) (c : Core) (cameraId : UInt32)
    (request : C → Wire α) : Wire α :=
  if running : c.isRunning = true then
    match find (c.manager running) cameraId with
    | .error what => .fail (operation ++ " failed: " ++ what)
    | .ok none =>
        .fail (service.name ++ " client for instance " ++ toString cameraId ++ " is not available")
    | .ok (some client) => request client
  else .fail "Core is not initialized"

def withCameraClient {α : Type} (operation : String) :
    Core → UInt32 → (CameraServiceClient → Wire α) → Wire α :=
  withClient .camera operation GrpcClientManager.getCameraServiceClient

def withVideoClient {α : Type} (operation : String) :
    Core → UInt32 → (VideoServiceClient → Wire α) → Wire α :=
  withClient .video operation GrpcClientManager.getVideoServiceClient

section Requests

variable (world : Downstream) (c : Core) (cameraId : UInt32)

def setZoom (zoomLevel : Zoom) : Wire Unit :=
  c.withCameraClient "setZoom" cameraId fun client => client.setZoom world zoomLevel

def getZoom : Wire Zoom :=
  c.withCameraClient "getZoom" cameraId fun client => client.getZoom world

def goToMinZoom : Wire Unit := c.setZoom world cameraId minNormalizedZoom

def goToMaxZoom : Wire Unit := c.setZoom world cameraId maxNormalizedZoom

def setFocus (focusValue : Focus) : Wire Unit :=
  c.withCameraClient "setFocus" cameraId fun client => client.setFocus world focusValue

def getFocus : Wire Focus :=
  c.withCameraClient "getFocus" cameraId fun client => client.getFocus world

def enableAutoFocus (on : Bool) : Wire Unit :=
  c.withCameraClient "enableAutoFocus" cameraId fun client => client.enableAutoFocus world on

def getAutoFocus : Wire Bool :=
  c.withCameraClient "getAutoFocus" cameraId fun client => client.getAutoFocus world

def getInfo : Wire String :=
  c.withCameraClient "getInfo" cameraId fun client => client.getInfo world

def stabilize (on : Bool) : Wire Unit :=
  c.withCameraClient "stabilize" cameraId fun client => client.stabilize world on

def getStabilization : Wire Bool :=
  c.withCameraClient "getStabilization" cameraId fun client => client.getStabilization world

def getCapabilities : Wire (List Capability) :=
  c.withCameraClient "getCapabilities" cameraId fun client => client.getCapabilities world

def setVideoCapabilityState (capability : String) (enable : Bool) : Wire Unit :=
  c.withVideoClient "SetVideoCapabilityState" cameraId fun client =>
    client.setVideoCapabilityState world capability enable

def getVideoCapabilities : Wire (List String) :=
  c.withVideoClient "getVideoCapabilities" cameraId fun client =>
    client.getVideoCapabilities world

def getVideoCapabilityState (capability : String) : Wire Bool :=
  c.withVideoClient "getVideoCapabilityState" cameraId fun client =>
    client.getVideoCapabilityState world capability

end Requests

/-! ### Routes -/

/-- The channel a request goes to, or the text it is refused with. -/
def route (c : Core) (service : Service) (operation : String) (cameraId : UInt32) :
    Except String Channel :=
  if running : c.isRunning = true then
    match (c.manager running).find cameraId service with
    | .error what => .error (operation ++ " failed: " ++ what)
    | .ok none =>
        .error (service.name ++ " client for instance " ++ toString cameraId ++
          " is not available")
    | .ok (some channel) => .ok channel
  else .error "Core is not initialized"

/-- Do `request` on the channel of a route; refuse without one. -/
def along {α : Type} (request : Channel → Wire α) : Except String Channel → Wire α
  | .ok channel => request channel
  | .error text => .fail text

/-- A request method does what its client method does along the route. -/
theorem withClient_eq {C α : Type} {stub : C → Channel} {service : Service}
    {find : GrpcClientManager → UInt32 → Except String (Option C)} {cameraId : UInt32}
    (finds : ∀ m, (find m cameraId).map (Option.map stub) = m.find cameraId service)
    (c : Core) (operation : String) (request : Channel → Wire α) :
    c.withClient service operation find cameraId (fun client => request (stub client)) =
      along request (c.route service operation cameraId) := by
  unfold withClient route
  by_cases running : c.isRunning = true
  · rw [dif_pos running, dif_pos running, ← finds]
    cases find (c.manager running) cameraId with
    | error what => rfl
    | ok client =>
        cases client with
        | none => rfl
        | some client => rfl
  · rw [dif_neg running, dif_neg running]
    rfl

theorem withCameraClient_eq {α : Type} (c : Core) (operation : String) (cameraId : UInt32)
    (request : Channel → Wire α) :
    c.withCameraClient operation cameraId (fun client => request client.stub) =
      along request (c.route .camera operation cameraId) :=
  withClient_eq (fun _ => rfl) c operation request

theorem withVideoClient_eq {α : Type} (c : Core) (operation : String) (cameraId : UInt32)
    (request : Channel → Wire α) :
    c.withVideoClient operation cameraId (fun client => request client.stub) =
      along request (c.route .video operation cameraId) :=
  withClient_eq (fun _ => rfl) c operation request

/-- The core's view of the client tables; nothing is there without a manager. -/
def table (c : Core) (cameraId : UInt32) (service : Service) : Option Channel :=
  c.clientManager.bind fun m => m.table cameraId service

theorem table_running {c : Core} (running : c.isRunning = true) (cameraId : UInt32)
    (service : Service) : c.table cameraId service = (c.manager running).table cameraId service := by
  have managed : c.clientManager = some (c.manager running) :=
    (Option.some_get (c.managed running)).symm
  rw [table, managed, Option.bind_some]

/-- A serving core has under an id the route of its configuration. -/
theorem Serving.table_eq {c : Core} (serving : c.Serving) (cameraId : UInt32)
    (service : Service) :
    c.table cameraId service =
      lastValue cameraId (routes c.infrastructureConfig service.name) := by
  obtain ⟨-, m, managed, config, routed⟩ := serving
  rw [table, managed, Option.bind_some, routed.table_eq, config]

/-- A request has a channel when the core runs and the table has a client. -/
theorem route_ok_iff {c : Core} {service : Service} {operation : String} {cameraId : UInt32}
    {channel : Channel} :
    c.route service operation cameraId = .ok channel ↔
      c.isRunning = true ∧ c.table cameraId service = some channel := by
  by_cases running : c.isRunning = true
  · rw [route, dif_pos running, table_running running, ← GrpcClientManager.find_found_iff]
    simp only [running, true_and]
    split <;> simp_all
  · rw [route, dif_neg running]
    simp [running]

/-- In a running core that has some client of the service, an id without one is
refused as not available. -/
theorem route_missing {c : Core} {service : Service} {cameraId other : UInt32}
    (running : c.isRunning = true) (configured : (c.table other service).isSome)
    (missing : c.table cameraId service = none) (operation : String) :
    c.route service operation cameraId =
      .error (service.name ++ " client for instance " ++ toString cameraId ++
        " is not available") := by
  rw [table_running running] at configured missing
  rw [route, dif_pos running, GrpcClientManager.find_configured configured, missing]

end SensorCore.Core
