import SensorCore.Api.Isolation

/-!
What the service is for: the registers of cameras, by camera id.

`Device` is a camera with what can be set and read. In `registers` there is one behind
every address, and any call may fail, with any text and without an effect. `Cameras` is
the service as a client sees it: a device under each id that is configured, an RPC reads
or sets one register of one device, and it fails where there is no device or the device
fails.

`cameras_refined` says that the stack, from the reactor of an RPC down to the instances,
is such a service, as long as no two cameras share an address. What is read is what was
last set, whatever was asked of other cameras in between, and the two instances of a
camera make up one device. `serve_refined` is one request of it; it speaks of client tables
only, and `Threads.Linear` uses it for RPCs that overlap.
-/

namespace SensorCore.Api

open SensorCore.Lib SensorCore.Config SensorCore.Clients

/-! ### Devices -/

/-- What a camera instance keeps. -/
structure CameraRegisters where
  zoom : UInt32
  focus : UInt32
  autoFocus : Bool
  stabilization : Bool
  info : String
  capabilities : List Int32

/-- What a video instance keeps. -/
structure VideoRegisters where
  capabilities : List String
  enabled : String → Bool

structure Device where
  camera : CameraRegisters
  video : VideoRegisters

/-- `camera.v1.CameraService` on registers. -/
def CameraRegisters.handle : (method : CameraService) → CameraRegisters →
    method.Response × CameraRegisters
  | .setZoom zoom, d => ((), { d with zoom })
  | .getZoom, d => (d.zoom, d)
  | .goToMinZoom, d => ((), { d with zoom := minNormalizedZoom })
  | .goToMaxZoom, d => ((), { d with zoom := maxNormalizedZoom })
  | .setFocus focus, d => ((), { d with focus })
  | .getFocus, d => (d.focus, d)
  | .setAutoFocus enable, d => ((), { d with autoFocus := enable })
  | .getAutoFocus, d => (d.autoFocus, d)
  | .getInfo, d => (d.info, d)
  | .getCapabilities, d => (d.capabilities, d)
  | .setStabilization enable, d => ((), { d with stabilization := enable })
  | .getStabilization, d => (d.stabilization, d)

/-- `video.v1.VideoService` on registers. -/
def VideoRegisters.handle : (method : VideoService) → VideoRegisters →
    method.Response × VideoRegisters
  | .getVideoCapabilities, d => (d.capabilities, d)
  | .setVideoCapabilityState capability enable, d =>
      ((), { d with enabled := Function.update d.enabled capability enable })
  | .getVideoCapabilityState capability, d => (d.enabled capability, d)

namespace Device

def handle : (call : Call) → Device → call.Response × Device
  | .camera method, d => ((d.camera.handle method).1, { d with camera := (d.camera.handle method).2 })
  | .video method, d => ((d.video.handle method).1, { d with video := (d.video.handle method).2 })

/-- An RPC of `CoreService` on the device of its camera. -/
def serve : (rpc : CoreService) → Device → rpc.Response × Device
  | .setZoom _ zoom, d => ((), { d with camera := { d.camera with zoom } })
  | .getZoom _, d => (d.camera.zoom, d)
  | .goToMinZoom _, d => ((), { d with camera := { d.camera with zoom := 0 } })
  | .goToMaxZoom _, d => ((), { d with camera := { d.camera with zoom := 100 } })
  | .setFocus _ focus, d => ((), { d with camera := { d.camera with focus } })
  | .getFocus _, d => (d.camera.focus, d)
  | .setAutoFocus _ enable, d => ((), { d with camera := { d.camera with autoFocus := enable } })
  | .getAutoFocus _, d => (d.camera.autoFocus, d)
  | .getInfo _, d => (d.camera.info, d)
  | .getCapabilities _, d =>
      (d.camera.capabilities.filter fun capability => decide (1 ≤ capability ∧ capability ≤ 5), d)
  | .setStabilization _ enable, d =>
      ((), { d with camera := { d.camera with stabilization := enable } })
  | .getStabilization _, d => (d.camera.stabilization, d)
  | .getVideoCapabilities _, d => (d.video.capabilities, d)
  | .setVideoCapabilityState _ capability enable, d =>
      ((), { d with video := { d.video with
        enabled := Function.update d.video.enabled capability enable } })
  | .getVideoCapabilityState _ capability, d => (d.video.enabled capability, d)

end Device

/-! ### The cameras as a client sees them -/

/-- The devices by camera id, and the number of calls to any of them so far. -/
structure Cameras where
  devices : UInt32 → Option Device
  calls : Nat

/-- One RPC. `fault` gives the calls that fail, with their messages. -/
def Cameras.step (fault : Nat → Option String) (rpc : CoreService) (s : Cameras) :
    Reply rpc.Response × Cameras :=
  let r := relay rpc
  match s.devices r.cameraId with
  | none =>
      (⟨[.internal (r.service.name ++ " client for instance " ++ toString r.cameraId ++
        " is not available")], rpc.blank⟩, s)
  | some d =>
      match fault s.calls with
      | some message =>
          (⟨[.internal (r.service.name ++ "." ++ r.method ++ ": " ++ message)], rpc.blank⟩,
            { s with calls := s.calls + 1 })
      | none =>
          (⟨[.ok], (d.serve rpc).1⟩,
            ⟨Function.update s.devices r.cameraId (some (d.serve rpc).2), s.calls + 1⟩)

/-! ### Instances that keep registers -/

section Registers

variable (fault : Nat → Option String) (initial : String → Device)

/-- The calls that did not fail. -/
def settled (sent : List Sent) : List Sent :=
  (sent.zipIdx.filter fun p => fault p.2 = none).map Prod.fst

/-- What the device behind an address keeps after these calls. -/
def keeps (sent : List Sent) (address : String) : Device :=
  ((settled fault sent).filter fun s => s.channel.target = address).foldl
    (fun d s => (d.handle s.call).2) (initial address)

/-- The instances with their registers, of which any call may fail. -/
def registers : Downstream := fun sent channel call =>
  match fault sent.length with
  | some message => .error message
  | none => .ok ((keeps fault initial sent channel.target).handle call).1

end Registers

/-- The channels of the clients, by camera id and service. -/
abbrev Table := UInt32 → Service → Option Channel

/-- The device that the two clients of a camera make up. -/
def deviceAt (table : Service → Option Channel) (state : String → Device) : Option Device :=
  match table .camera, table .video with
  | some camera, some video => some ⟨(state camera.target).camera, (state video.target).video⟩
  | _, _ => none

/-- The devices are what the instances keep. -/
structure Related (table : Table) (fault : Nat → Option String) (initial : String → Device)
    (sent : List Sent) (s : Cameras) : Prop where
  devices : ∀ id, s.devices id = deviceAt (table id) (keeps fault initial sent)
  calls : s.calls = sent.length

/-- Every camera has both clients or none, and no two cameras share an address. -/
structure Separate (table : Table) : Prop where
  paired : ∀ id, (table id .camera).isSome ↔ (table id .video).isSome
  unshared : ∀ ⦃id id' service channel channel'⦄, table id service = some channel →
    table id' service = some channel' → channel.target = channel'.target → id = id'

variable {fault : Nat → Option String} {initial : String → Device}

theorem settled_append (sent : List Sent) (s : Sent) :
    settled fault (sent ++ [s]) =
      settled fault sent ++ if fault sent.length = none then [s] else [] := by
  simp only [settled, List.zipIdx_append, List.filter_append, List.map_append]
  congr 1
  by_cases settles : fault sent.length = none <;> simp [settles]

/-- A call that fails changes nothing. -/
theorem keeps_fault {sent : List Sent} {message : String} (fails : fault sent.length = some message)
    (s : Sent) : keeps fault initial (sent ++ [s]) = keeps fault initial sent := by
  funext address
  simp [keeps, settled_append, fails]

/-- Another one is handled by the device it goes to. -/
theorem keeps_call {sent : List Sent} (settles : fault sent.length = none) (channel : Channel)
    (call : Call) :
    keeps fault initial (sent ++ [⟨channel, call⟩]) =
      Function.update (keeps fault initial sent) channel.target
        ((keeps fault initial sent channel.target).handle call).2 := by
  funext address
  by_cases same : channel.target = address
  · subst same
    simp [keeps, settled_append, settles]
  · rw [Function.update_of_ne (Ne.symm same)]
    simp [keeps, settled_append, settles, same]

/-! ### One request -/

/-- The part that belongs to a service, from another device. -/
def Device.take (d : Device) (service : Service) (state : Device) : Device :=
  match service with
  | .camera => { d with camera := state.camera }
  | .video => { d with video := state.video }

/-- The device that is called for an RPC does what the RPC says, as far as it keeps the
registers of the camera, and only there. -/
theorem Device.serve_relay (rpc : CoreService) {d state : Device}
    (own : d.take (relay rpc).service state = d) :
    (relay rpc).translate (state.handle (relay rpc).call).1 = (d.serve rpc).1 ∧
      d.take (relay rpc).service (state.handle (relay rpc).call).2 = (d.serve rpc).2 ∧
      state.take (relay rpc).service (state.handle (relay rpc).call).2 =
        (state.handle (relay rpc).call).2 := by
  obtain ⟨camera, video⟩ := d
  obtain ⟨camera', video'⟩ := state
  cases rpc
  case getVideoCapabilities | setVideoCapabilityState | getVideoCapabilityState =>
    obtain rfl : video' = video := congrArg Device.video own
    exact ⟨rfl, rfl, rfl⟩
  case getCapabilities =>
    obtain rfl : camera' = camera := congrArg Device.camera own
    exact ⟨translateCapabilities_eq _, rfl, rfl⟩
  all_goals
    obtain rfl : camera' = camera := congrArg Device.camera own
    exact ⟨rfl, rfl, rfl⟩

theorem Device.take_camera (d : Device) (service : Service) (state : Device) :
    (d.take service state).camera = if service = .camera then state.camera else d.camera := by
  cases service <;> rfl

theorem Device.take_video (d : Device) (service : Service) (state : Device) :
    (d.take service state).video = if service = .video then state.video else d.video := by
  cases service <;> rfl

theorem relay_blank (rpc : CoreService) : (relay rpc).blank = rpc.blank := by
  cases rpc <;> rfl

theorem deviceAt_missing {table : Table} {id : UInt32} {service : Service}
    (missing : table id service = none) (state : String → Device) :
    deviceAt (table id) state = none := by
  rw [deviceAt]
  cases service with
  | camera => rw [missing]
  | video => cases table id .camera <;> simp [missing]

/-- One without a client is refused, and the devices stay as they are. -/
theorem refuse_refined {table : Table} {sent : List Sent} {s : Cameras}
    (related : Related table fault initial sent s) (rpc : CoreService)
    (missing : table (relay rpc).cameraId (relay rpc).service = none) :
    Cameras.step fault rpc s =
      ((relay rpc).refuse ((relay rpc).service.name ++ " client for instance " ++
        toString (relay rpc).cameraId ++ " is not available"), s) := by
  have absent : s.devices (relay rpc).cameraId = none :=
    (related.devices _).trans (deviceAt_missing missing _)
  simp only [Cameras.step, absent, Relay.refuse, relay_blank]

namespace Separate

variable {table : Table} (separate : Separate table)

include separate

/-- With both clients of the camera there is a device, part of which the called one keeps. -/
theorem deviceAt_found {id : UInt32} {service : Service} {channel : Channel}
    (found : table id service = some channel) (state : String → Device) :
    ∃ d, deviceAt (table id) state = some d ∧ d.take service (state channel.target) = d := by
  have paired := separate.paired id
  cases service with
  | camera =>
      obtain ⟨other, video⟩ := Option.isSome_iff_exists.mp (paired.mp (by rw [found]; rfl))
      exact ⟨⟨(state channel.target).camera, (state other.target).video⟩,
        by rw [deviceAt, found, video], rfl⟩
  | video =>
      obtain ⟨other, camera⟩ := Option.isSome_iff_exists.mp (paired.mpr (by rw [found]; rfl))
      exact ⟨⟨(state other.target).camera, (state channel.target).video⟩,
        by rw [deviceAt, camera, found], rfl⟩

section Update

variable {id : UInt32} {service : Service} {channel : Channel} {device : Device}
  {state : String → Device} (found : table id service = some channel)
  (partly : (state channel.target).take service device = device)

include found partly

/-- What is done to one service's part of a device is seen by one client: `part` is the
part that belongs to `own`. -/
theorem part_update {α : Type} {own : Service} {part : Device → α}
    (takes : ∀ d service x, part (Device.take d service x) =
      if service = own then part x else part d) {id' : UInt32} {channel' : Channel}
    (found' : table id' own = some channel') :
    part (Function.update state channel.target device channel'.target) =
      if id' = id ∧ service = own then part device else part (state channel'.target) := by
  by_cases same : channel'.target = channel.target
  · rw [same, Function.update_self]
    by_cases mine : service = own
    · subst mine
      rw [if_pos ⟨separate.unshared found' found same, rfl⟩]
    · rw [if_neg (fun both => mine both.2), ← partly, takes, if_neg mine]
  · rw [Function.update_of_ne same, if_neg]
    rintro ⟨rfl, rfl⟩
    rw [found] at found'
    cases found'
    exact same rfl

theorem deviceAt_update (id' : UInt32) :
    deviceAt (table id') (Function.update state channel.target device) =
      if id' = id then (deviceAt (table id) state).map fun d => d.take service device
      else deviceAt (table id') state := by
  have parts : ∀ channel₁ channel₂, table id' .camera = some channel₁ →
      table id' .video = some channel₂ → _ ∧ _ := fun _ _ camera video =>
    ⟨separate.part_update found partly Device.take_camera camera,
      separate.part_update found partly Device.take_video video⟩
  by_cases same : id' = id
  · subst same
    rw [if_pos rfl]
    unfold deviceAt
    cases camera : table id' .camera with
    | none => rfl
    | some channel₁ =>
        cases video : table id' .video with
        | none => rfl
        | some channel₂ =>
            obtain ⟨first, second⟩ := parts channel₁ channel₂ camera video
            simp only [first, second]
            cases service <;> simp [Device.take]
  · rw [if_neg same]
    unfold deviceAt
    cases camera : table id' .camera with
    | none => rfl
    | some channel₁ =>
        cases video : table id' .video with
        | none => rfl
        | some channel₂ =>
            obtain ⟨first, second⟩ := parts channel₁ channel₂ camera video
            simp only [first, second, same, false_and, if_false]

end Update

/-- A request that finds its client is served like the device of its camera. -/
theorem serve_refined {sent : List Sent} {s : Cameras}
    (related : Related table fault initial sent s) (rpc : CoreService) {channel : Channel}
    (found : table (relay rpc).cameraId (relay rpc).service = some channel) :
    ((relay rpc).serve (registers fault initial) sent (.ok channel)).1 =
        (Cameras.step fault rpc s).1 ∧
      Related table fault initial
        ((relay rpc).serve (registers fault initial) sent (.ok channel)).2
        (Cameras.step fault rpc s).2 := by
  obtain ⟨d, device, own⟩ := separate.deviceAt_found found (keeps fault initial sent)
  have present : s.devices (relay rpc).cameraId = some d := (related.devices _).trans device
  obtain ⟨answer, next, partly⟩ := Device.serve_relay rpc own
  have counted : sent.length + 1 =
      (sent ++ [(⟨channel, (relay rpc).call⟩ : Sent)]).length := by simp
  rw [Relay.serve, Cameras.step]
  cases fails : fault sent.length with
  | some message =>
      simp only [present, related.calls, fails]
      refine ⟨?_, ?_, counted⟩
      · simp only [registers, fails, Relay.reply, relay_blank]
      · intro id
        rw [keeps_fault fails]
        exact related.devices id
  | none =>
      simp only [present, related.calls, fails]
      refine ⟨?_, ?_, counted⟩
      · simp only [registers, fails, Relay.reply, answer]
      · intro id
        rw [keeps_call fails, separate.deviceAt_update found partly, device, Option.map_some,
          next]
        simp only [Function.update_apply]
        split
        · rfl
        · exact related.devices id

end Separate

/-! ### Any list of requests -/

/-- The clients that a configuration gives. -/
def tableOf (config : InfrastructureConfig) : Table := fun id service =>
  lastValue id (routes config service.name)

/-- No two entries of a service have the same address and different ids. -/
def Unshared (config : InfrastructureConfig) : Prop :=
  ∀ service : Service, ∀ i ∈ instancesOf config service.name,
    ∀ j ∈ instancesOf config service.name, i.address = j.address → i.id = j.id

theorem separate_of_config {config : InfrastructureConfig} (both : BothServices config)
    (unshared : Unshared config) : Separate (tableOf config) where
  paired id := by
    have valid := InfrastructureConfig.validate_iff.mp both.accepted
    obtain ⟨camera, hcamera⟩ := both.listed .camera
    obtain ⟨video, hvideo⟩ := both.listed .video
    simp only [tableOf, route_isSome_iff, instancesOf_found hcamera, instancesOf_found hvideo,
      ← ClientConfig.mem_ids, valid.paired camera video hcamera hvideo]
  unshared _ _ service _ _ found found' same :=
    unshared service _ (route_listed found).2 _ (route_listed found').2 same

/-- One RPC in the stack and in the cameras. -/
theorem simulates (fault : Nat → Option String) (initial : String → Device)
    {h : RequestHandler Core} (running : h.isRunning = true)
    (serving : h.core.Serving) (both : BothServices h.core.infrastructureConfig)
    (unshared : Unshared h.core.infrastructureConfig) :
    Simulates (Related (tableOf h.core.infrastructureConfig) fault initial)
      (GrpcCallbackHandler.dispatch (registers fault initial) h) (Cameras.step fault) := by
  intro rpc sent s related
  have separate := separate_of_config both unshared
  have route : h.route (relay rpc) =
      h.core.route (relay rpc).service (relay rpc).operation (relay rpc).cameraId :=
    if_pos running
  have tables := serving.table_eq (relay rpc).cameraId (relay rpc).service
  rw [GrpcCallbackHandler.dispatch_eq, route]
  cases found : h.core.table (relay rpc).cameraId (relay rpc).service with
  | none =>
      obtain ⟨_, configured⟩ := both.exists_table serving (relay rpc).service
      rw [Core.route_missing serving.1 configured found,
        refuse_refined related rpc (tables.symm.trans found)]
      exact ⟨rfl, related⟩
  | some channel =>
      rw [Core.route_ok_iff.mpr ⟨serving.1, found⟩]
      exact separate.serve_refined related rpc (tables.symm.trans found)

/-- The devices of a configuration at the start. -/
def Cameras.new (config : InfrastructureConfig) (initial : String → Device) : Cameras :=
  ⟨fun id => deviceAt (tableOf config id) initial, 0⟩

theorem related_new (config : InfrastructureConfig) :
    Related (tableOf config) fault initial [] (.new config initial) :=
  ⟨fun _ => rfl, rfl⟩

/-- A started stack answers every list of RPCs like the cameras of its configuration,
whichever calls fail. -/
theorem cameras_refined {h after : RequestHandler Core} {o : Core.StartOutcome}
    (both : BothServices h.core.infrastructureConfig)
    (unshared : Unshared h.core.infrastructureConfig)
    (started : h.start coreLifecycle o = some (.ok (), after)) (fault : Nat → Option String)
    (initial : String → Device) (rpcs : List CoreService) :
    let stack := serveAll (GrpcCallbackHandler.dispatch (registers fault initial) after) rpcs []
    let cameras := serveAll (Cameras.step fault) rpcs (.new h.core.infrastructureConfig initial)
    stack.1 = cameras.1 ∧
      ∀ id, cameras.2.devices id =
        deviceAt (tableOf h.core.infrastructureConfig id) (keeps fault initial stack.2) := by
  intro stack cameras
  obtain ⟨-, running, serving, config⟩ := Stack.handler_start_ok started
  rw [← config] at both unshared
  have step := simulates fault initial running serving both unshared
  rw [config] at step
  obtain ⟨answers, related⟩ := step.serveAll rpcs (related_new _)
  exact ⟨answers, related.devices⟩

/-- A camera that is at rest. -/
def restingDevice : Device :=
  ⟨⟨0, 0, false, false, "camera", [1, 2]⟩, ⟨["night"], fun _ => false⟩⟩

/-- A zoom is set on two cameras and read again; the first attempt on the second camera
fails, and there is no third. -/
theorem cameras_refined_zooms :
    let fault := fun n => if n = 1 then some "UNAVAILABLE" else none
    let rpcs := [.setZoom 0 5, .setZoom 1 7, .goToMaxZoom 1, .setVideoCapabilityState 0 "night" true,
      .getZoom 0, .getZoom 1, .getVideoCapabilityState 0 "night", .getZoom 9]
    let stack := serveAll (GrpcCallbackHandler.dispatch (registers fault fun _ => restingDevice)
      (startedOn Core.pairedConfig)) rpcs []
    let cameras := serveAll (Cameras.step fault) rpcs
      (.new Core.pairedConfig fun _ => restingDevice)
    stack.1 = cameras.1 ∧
      ∀ id, cameras.2.devices id = deviceAt (tableOf Core.pairedConfig id)
        (keeps fault (fun _ => restingDevice) stack.2) := by
  have both : BothServices Core.pairedConfig := ⟨rfl, fun service => by
    cases service <;> exact ⟨_, rfl⟩⟩
  have unshared : Unshared Core.pairedConfig := by
    intro service
    cases service <;> decide
  have started : RequestHandler.start coreLifecycle .fine ⟨Core.new Core.pairedConfig, false⟩ =
      some (.ok (), startedOn Core.pairedConfig) := rfl
  exact cameras_refined both unshared started _ _ _

end SensorCore.Api
