import SensorCore.Api.Requests
import SensorCore.Api.Stack

/-!
What an RPC of `CoreService` is for: it relays one call to one camera.

`relay` says for each RPC which service it belongs to, which call it makes there
and what becomes of the response. `Relay.reply` is the answer of an RPC whose call
was made. `dispatch_eq` is the refinement: the handlers, five layers deep, do what
the relay of their request says along the route of the request. It is proved once
for all RPCs of a service (`sync_eq`), from what each layer does.

`relays_faithfully` states it against the client tables: with the handler and the
core running and a client in the table there is one call, and otherwise none; the
reactor is finished once either way. `paired_routing` is about pairs: after a start on
an accepted configuration of both services the two tables have clients under the same
ids, and an RPC of one service goes to a client exactly when one of the other does.
-/

namespace SensorCore.Api

open SensorCore.Lib SensorCore.Config SensorCore.Clients

/-! ### The abstract service -/

/-- An RPC as a call to one camera. -/
structure Relay (R : Type) where
  service : Service
  cameraId : UInt32
  call : Call
  method : String
  translate : call.Response → R
  blank : R
  /-- The name the core gives the operation in an error. -/
  operation : String
  /-- What the handler answers while it is not running. -/
  refusal : String

/-- Camera capabilities that are known, as core capabilities of the same number. -/
def translateCapabilities (capabilities : List Int32) : List Int32 :=
  capabilities.filter fun capability => decide (capability ∈ [1, 2, 3, 4, 5])

/-- The known numbers are a range. -/
theorem known_iff {capability : Int32} :
    capability ∈ [1, 2, 3, 4, 5] ↔ 1 ≤ capability ∧ capability ≤ 5 := by
  have one : (1 : Int32).toInt = 1 := rfl
  have two : (2 : Int32).toInt = 2 := rfl
  have three : (3 : Int32).toInt = 3 := rfl
  have four : (4 : Int32).toInt = 4 := rfl
  have five : (5 : Int32).toInt = 5 := rfl
  simp only [List.mem_cons, List.not_mem_nil, or_false, ← Int32.toInt_inj, Int32.le_iff_toInt_le]
  omega

theorem translateCapabilities_eq (capabilities : List Int32) :
    translateCapabilities capabilities =
      capabilities.filter fun capability => decide (1 ≤ capability ∧ capability ≤ 5) := by
  unfold translateCapabilities
  simp only [known_iff]

def relay : (rpc : CoreService) → Relay rpc.Response
  | .setZoom cameraId zoom =>
      { service := .camera, cameraId, call := .camera (.setZoom zoom), method := "SetZoom",
        translate := fun _ => (), blank := (), operation := "setZoom",
        refusal := "RequestHandler is not running" }
  | .getZoom cameraId =>
      { service := .camera, cameraId, call := .camera .getZoom, method := "GetZoom",
        translate := fun zoom => zoom, blank := (0 : UInt32), operation := "getZoom",
        refusal := "Request Handler is not running" }
  | .goToMinZoom cameraId =>
      { service := .camera, cameraId, call := .camera (.setZoom minNormalizedZoom),
        method := "SetZoom", translate := fun _ => (), blank := (), operation := "setZoom",
        refusal := "Request Handler is not running" }
  | .goToMaxZoom cameraId =>
      { service := .camera, cameraId, call := .camera (.setZoom maxNormalizedZoom),
        method := "SetZoom", translate := fun _ => (), blank := (), operation := "setZoom",
        refusal := "Request Handler is not running" }
  | .setFocus cameraId focus =>
      { service := .camera, cameraId, call := .camera (.setFocus focus), method := "SetFocus",
        translate := fun _ => (), blank := (), operation := "setFocus",
        refusal := "Request Handler is not running" }
  | .getFocus cameraId =>
      { service := .camera, cameraId, call := .camera .getFocus, method := "GetFocus",
        translate := fun focus => focus, blank := (0 : UInt32), operation := "getFocus",
        refusal := "Request Handler is not running" }
  | .setAutoFocus cameraId enable =>
      { service := .camera, cameraId, call := .camera (.setAutoFocus enable),
        method := "SetAutoFocus", translate := fun _ => (), blank := (),
        operation := "enableAutoFocus", refusal := "Request Handler is not running" }
  | .getAutoFocus cameraId =>
      { service := .camera, cameraId, call := .camera .getAutoFocus, method := "GetAutoFocus",
        translate := fun enable => enable, blank := false, operation := "getAutoFocus",
        refusal := "Request Handler is not running" }
  | .getInfo cameraId =>
      { service := .camera, cameraId, call := .camera .getInfo, method := "GetInfo",
        translate := fun info => info, blank := "", operation := "getInfo",
        refusal := "Request Handler is not running" }
  | .getCapabilities cameraId =>
      { service := .camera, cameraId, call := .camera .getCapabilities,
        method := "GetCapabilities", translate := translateCapabilities,
        blank := ([] : List Int32), operation := "getCapabilities",
        refusal := "Request Handler is not running" }
  | .setStabilization cameraId enable =>
      { service := .camera, cameraId, call := .camera (.setStabilization enable),
        method := "SetStabilization", translate := fun _ => (), blank := (),
        operation := "stabilize", refusal := "Request Handler is not running" }
  | .getStabilization cameraId =>
      { service := .camera, cameraId, call := .camera .getStabilization,
        method := "GetStabilization", translate := fun enable => enable, blank := false,
        operation := "getStabilization", refusal := "Request Handler is not running" }
  | .getVideoCapabilities cameraId =>
      { service := .video, cameraId, call := .video .getVideoCapabilities,
        method := "GetVideoCapabilities", translate := fun capabilities => capabilities,
        blank := ([] : List String), operation := "getVideoCapabilities",
        refusal := "RequestHandler is not running" }
  | .setVideoCapabilityState cameraId capability enable =>
      { service := .video, cameraId, call := .video (.setVideoCapabilityState capability enable),
        method := "SetVideoCapabilityState", translate := fun _ => (), blank := (),
        operation := "SetVideoCapabilityState", refusal := "RequestHandler is not running" }
  | .getVideoCapabilityState cameraId capability =>
      { service := .video, cameraId, call := .video (.getVideoCapabilityState capability),
        method := "GetVideoCapabilityState", translate := fun enable => enable, blank := false,
        operation := "getVideoCapabilityState", refusal := "RequestHandler is not running" }

namespace Relay

variable {R : Type} (r : Relay R)

/-- The reply to an RPC whose call was answered. -/
def reply : Except String r.call.Response → Reply R
  | .ok response => ⟨[.ok], r.translate response⟩
  | .error message => ⟨[.internal (r.service.name ++ "." ++ r.method ++ ": " ++ message)], r.blank⟩

/-- The reply to an RPC that was refused before any call. -/
def refuse (text : String) : Reply R := ⟨[.internal text], r.blank⟩

/-- Relay along a route: one call on its channel, or none. -/
def serve (world : Downstream) (sent : List Sent) : Except String Channel → Reply R × List Sent
  | .ok channel => (r.reply (world sent channel r.call), sent ++ [⟨channel, r.call⟩])
  | .error text => (r.refuse text, sent)

end Relay

namespace RequestHandler

/-- The route of a request: through the core, when the handler is running. -/
def route {R : Type} (h : RequestHandler Core) (r : Relay R) : Except String Channel :=
  if h.isRunning then h.core.route r.service r.operation r.cameraId else .error r.refusal

/-- The client table of a service, as far as requests get to it. -/
def table (h : RequestHandler Core) (cameraId : UInt32) (service : Service) : Option Channel :=
  if h.isRunning = true ∧ h.core.isRunning = true then h.core.table cameraId service else none

/-- A request has a route when the table it reaches has a client. -/
theorem route_ok_iff {R : Type} {h : RequestHandler Core} {r : Relay R} {channel : Channel} :
    h.route r = .ok channel ↔ h.table r.cameraId r.service = some channel := by
  unfold route table
  by_cases running : h.isRunning = true
  · rw [if_pos running, Core.route_ok_iff]
    by_cases up : h.core.isRunning = true
    · simp [running, up]
    · simp [up]
  · simp [running]

end RequestHandler

/-! ### The handlers refine it -/

/-- Known capabilities keep their number on the way through the domain. -/
theorem toProto_fromProto (capabilities : List Int32) :
    (capabilities.filterMap CameraServiceClient.fromProto).map GrpcCallbackHandler.toProto =
      translateCapabilities capabilities := by
  induction capabilities with
  | nil => rfl
  | cons capability rest ih =>
      unfold translateCapabilities at ih ⊢
      rw [List.filterMap_cons, List.filter_cons]
      unfold CameraServiceClient.fromProto at ih ⊢
      by_cases zoom : capability = 1
      · simp [zoom, ih, GrpcCallbackHandler.toProto]
      by_cases focus : capability = 2
      · simp [focus, ih, GrpcCallbackHandler.toProto]
      by_cases autoFocus : capability = 3
      · simp [autoFocus, ih, GrpcCallbackHandler.toProto]
      by_cases info : capability = 4
      · simp [info, ih, GrpcCallbackHandler.toProto]
      by_cases stabilization : capability = 5
      · simp [stabilization, ih, GrpcCallbackHandler.toProto]
      · simp [zoom, focus, autoFocus, info, stabilization, ih]

namespace GrpcCallbackHandler

variable {α R : Type} (world : Downstream) (h : RequestHandler Core) (r : Relay R)
  {operation : Core → Wire α} {fill : α → R → R}

/-- An operation of the core along a route, behind the handler's guard. -/
theorem guarded_eq {request : Channel → Wire α}
    (along : ∀ c : Core, operation c =
      Core.along request (c.route r.service r.operation r.cameraId)) :
    h.guarded r.refusal operation = Core.along request (h.route r) := by
  unfold RequestHandler.guarded RequestHandler.route
  by_cases running : h.isRunning = true
  · rw [if_pos running, if_pos running, along]
  · rw [if_neg running, if_neg running]
    rfl

/-- The layers of one RPC, from the reactor down to the stub, are its relay. -/
theorem sync_eq (read : r.call.Response → α)
    (along : ∀ c : Core, operation c =
      Core.along (unary world r.service.name r.method r.call read)
        (c.route r.service r.operation r.cameraId))
    (translates : ∀ response, fill (read response) r.blank = r.translate response)
    (sent : List Sent) :
    handleGrpcSyncRequest (respond (h.guarded r.refusal operation) fill) r.blank sent =
      r.serve world sent (h.route r) := by
  rw [guarded_eq h r along]
  cases h.route r with
  | error text => rfl
  | ok channel =>
      simp only [handleGrpcSyncRequest, respond, Core.along, unary, callStub, Relay.serve]
      cases world sent channel r.call with
      | error message => rfl
      | ok response => simp only [Relay.reply, translates]

/-- Every RPC does what its relay says. -/
theorem dispatch_eq (rpc : CoreService) (sent : List Sent) :
    dispatch world h rpc sent = (relay rpc).serve world sent (h.route (relay rpc)) := by
  have camera := @Core.withCameraClient_eq
  have video := @Core.withVideoClient_eq
  cases rpc with
  | setZoom cameraId zoom =>
      exact sync_eq world h (relay (.setZoom cameraId zoom)) (fun _ => ())
        (fun c => camera c _ _ _) (fun _ => rfl) sent
  | getZoom cameraId =>
      exact sync_eq world h (relay (.getZoom cameraId)) (fun value => value)
        (fun c => camera c _ _ _) (fun _ => rfl) sent
  | goToMinZoom cameraId =>
      exact sync_eq world h (relay (.goToMinZoom cameraId)) (fun _ => ())
        (fun c => camera c _ _ _) (fun _ => rfl) sent
  | goToMaxZoom cameraId =>
      exact sync_eq world h (relay (.goToMaxZoom cameraId)) (fun _ => ())
        (fun c => camera c _ _ _) (fun _ => rfl) sent
  | setFocus cameraId focus =>
      exact sync_eq world h (relay (.setFocus cameraId focus)) (fun _ => ())
        (fun c => camera c _ _ _) (fun _ => rfl) sent
  | getFocus cameraId =>
      exact sync_eq world h (relay (.getFocus cameraId)) (fun value => value)
        (fun c => camera c _ _ _) (fun _ => rfl) sent
  | setAutoFocus cameraId enable =>
      exact sync_eq world h (relay (.setAutoFocus cameraId enable)) (fun _ => ())
        (fun c => camera c _ _ _) (fun _ => rfl) sent
  | getAutoFocus cameraId =>
      exact sync_eq world h (relay (.getAutoFocus cameraId)) (fun value => value)
        (fun c => camera c _ _ _) (fun _ => rfl) sent
  | getInfo cameraId =>
      exact sync_eq world h (relay (.getInfo cameraId)) (fun value => value)
        (fun c => camera c _ _ _) (fun _ => rfl) sent
  | getCapabilities cameraId =>
      exact sync_eq world h (relay (.getCapabilities cameraId)) (List.filterMap CameraServiceClient.fromProto)
        (fun c => camera c _ _ _) (fun response => toProto_fromProto response) sent
  | setStabilization cameraId enable =>
      exact sync_eq world h (relay (.setStabilization cameraId enable)) (fun _ => ())
        (fun c => camera c _ _ _) (fun _ => rfl) sent
  | getStabilization cameraId =>
      exact sync_eq world h (relay (.getStabilization cameraId)) (fun value => value)
        (fun c => camera c _ _ _) (fun _ => rfl) sent
  | getVideoCapabilities cameraId =>
      exact sync_eq world h (relay (.getVideoCapabilities cameraId)) (fun value => value)
        (fun c => video c _ _ _) (fun _ => rfl) sent
  | setVideoCapabilityState cameraId capability enable =>
      exact sync_eq world h (relay (.setVideoCapabilityState cameraId capability enable)) (fun _ => ())
        (fun c => video c _ _ _) (fun _ => rfl) sent
  | getVideoCapabilityState cameraId capability =>
      exact sync_eq world h (relay (.getVideoCapabilityState cameraId capability)) (fun value => value)
        (fun c => video c _ _ _) (fun _ => rfl) sent

/-- Every RPC, in every state of the handler and the core and against any downstream
services: with a client in the table there is exactly its call, and its answer
comes back; without one there is none, and the RPC fails. The reactor is finished
once in either case. -/
theorem relays_faithfully (rpc : CoreService) (sent : List Sent) :
    (∀ channel, h.table (relay rpc).cameraId (relay rpc).service = some channel →
      dispatch world h rpc sent =
        ((relay rpc).reply (world sent channel (relay rpc).call),
          sent ++ [⟨channel, (relay rpc).call⟩])) ∧
    (h.table (relay rpc).cameraId (relay rpc).service = none →
      ∃ text, dispatch world h rpc sent = ((relay rpc).refuse text, sent)) ∧
    (dispatch world h rpc sent).1.finished.length = 1 := by
  rw [dispatch_eq]
  refine ⟨?_, ?_, ?_⟩
  · intro channel found
    rw [RequestHandler.route_ok_iff.mpr found]
    rfl
  · intro missing
    cases routed : h.route (relay rpc) with
    | error text => exact ⟨text, rfl⟩
    | ok channel => simp [RequestHandler.route_ok_iff.mp routed] at missing
  · cases h.route (relay rpc) with
    | error text => rfl
    | ok channel =>
        simp only [Relay.serve, Relay.reply]
        split <;> rfl

/-- The RPC goes to a client: there is its one call, on the channel of the client, and the
answer to the call comes back. -/
def GoesTo (rpc : CoreService) (sent : List Sent) (channel : Channel) : Prop :=
  dispatch world h rpc sent =
    ((relay rpc).reply (world sent channel (relay rpc).call), sent ++ [⟨channel, (relay rpc).call⟩])

/-- An RPC goes to the client that the table has for it, and nowhere else. -/
theorem goesTo_iff {rpc : CoreService} {sent : List Sent} {channel : Channel} :
    GoesTo world h rpc sent channel ↔
      h.table (relay rpc).cameraId (relay rpc).service = some channel := by
  rw [GoesTo, dispatch_eq, ← RequestHandler.route_ok_iff]
  constructor
  · intro same
    have calls := congrArg Prod.snd same
    cases routed : h.route (relay rpc) with
    | error text =>
        rw [routed] at calls
        simp [Relay.serve] at calls
    | ok other =>
        rw [routed] at calls
        have last : (⟨other, (relay rpc).call⟩ : Sent) = ⟨channel, (relay rpc).call⟩ :=
          List.singleton_inj.mp (List.append_cancel_left calls)
        exact congrArg (fun made : Sent => Except.ok made.channel) last
  · intro routed
    rw [routed]
    rfl

/-- What a camera lists as its capabilities is passed on in order and with its numbers;
only numbers that are not capabilities are left out. -/
theorem capabilities_lossless {cameraId : UInt32} {channel : Channel} {sent : List Sent}
    {capabilities : List Int32} (found : h.table cameraId .camera = some channel)
    (answered : world sent channel (.camera .getCapabilities) = .ok capabilities) :
    dispatch world h (.getCapabilities cameraId) sent =
        (⟨[.ok], capabilities.filter fun capability => decide (1 ≤ capability ∧ capability ≤ 5)⟩,
          sent ++ [⟨channel, .camera .getCapabilities⟩]) ∧
      (0 : Int32) ∉ capabilities.filter fun capability =>
        decide (1 ≤ capability ∧ capability ≤ 5) := by
  have routed : h.route (relay (.getCapabilities cameraId)) = .ok channel :=
    RequestHandler.route_ok_iff.mpr found
  constructor
  · rw [dispatch_eq, routed, ← translateCapabilities_eq]
    simp only [Relay.serve]
    have replied : (relay (.getCapabilities cameraId)).reply
        (world sent channel (.camera .getCapabilities)) =
          ⟨[.ok], translateCapabilities capabilities⟩ := by
      rw [answered]
      rfl
    exact congrArg (fun reply => (reply, sent ++ [⟨channel, .camera .getCapabilities⟩])) replied
  · intro unspecified
    have known := (List.mem_filter.mp unspecified).2
    exact absurd known (by decide)

/-- A camera that lists numbers outside the enumeration, and some twice. -/
def listing : Downstream := fun _ _ call =>
  match call with
  | .camera .getCapabilities => .ok ([5, 0, 1, 1, 6, -1, 3] : List Int32)
  | _ => .error "not listed"

theorem capabilities_lossless_listing :
    ∃ h : RequestHandler Core,
      RequestHandler.start coreLifecycle .fine ⟨Core.new Core.pairedConfig, false⟩ =
        some (.ok (), h) ∧
      dispatch listing h (.getCapabilities 1) [] =
        (⟨[.ok], ([5, 1, 1, 3] : List Int32)⟩,
          [⟨⟨"camera_service", 1, "right:50050"⟩, .camera .getCapabilities⟩]) := by
  have started : (RequestHandler.start coreLifecycle .fine
      ⟨Core.new Core.pairedConfig, false⟩).map (fun p => (p.1.isOk, p.2.table 1 .camera)) =
        some (true, some ⟨"camera_service", 1, "right:50050"⟩) := rfl
  obtain ⟨⟨r, h⟩, ran, seen⟩ := Option.map_eq_some_iff.mp started
  obtain ⟨ok, found⟩ := Prod.mk.inj seen
  cases r with
  | error e => cases ok
  | ok u => exact ⟨h, ran, (capabilities_lossless listing h found rfl).1⟩

end GrpcCallbackHandler

/-! ### Cameras come in pairs -/

/-- A serving core has clients under exactly the ids its configuration lists. -/
theorem table_isSome_iff {c : Core} (serving : c.Serving) {service : Service}
    {client : ClientConfig}
    (listed : c.infrastructureConfig.clients.lookup service.name = some client)
    {cameraId : UInt32} : (c.table cameraId service).isSome ↔ cameraId ∈ client.ids := by
  rw [serving.table_eq, route_isSome_iff, instancesOf_found listed, ClientConfig.mem_ids]

/-- An accepted configuration of both services. -/
structure BothServices (config : InfrastructureConfig) : Prop where
  accepted : config.validate = .ok ()
  listed : ∀ service : Service, ∃ client, config.clients.lookup service.name = some client

namespace BothServices

variable {c : Core}

/-- Neither table is empty. -/
theorem exists_table (both : BothServices c.infrastructureConfig) (serving : c.Serving)
    (service : Service) : ∃ other, (c.table other service).isSome := by
  obtain ⟨client, listed⟩ := both.listed service
  have valid := InfrastructureConfig.validate_iff.mp both.accepted
  obtain ⟨i, hi⟩ := List.exists_mem_of_ne_nil _ (valid.clients _ _ listed).1
  exact ⟨i.id, (table_isSome_iff serving listed).mpr (ClientConfig.mem_ids.mpr ⟨i, hi, rfl⟩)⟩

/-- The two tables have clients under the same ids. -/
theorem table_paired (both : BothServices c.infrastructureConfig) (serving : c.Serving)
    (cameraId : UInt32) :
    (c.table cameraId .camera).isSome ↔ (c.table cameraId .video).isSome := by
  obtain ⟨camera, hcamera⟩ := both.listed .camera
  obtain ⟨video, hvideo⟩ := both.listed .video
  have valid := InfrastructureConfig.validate_iff.mp both.accepted
  rw [table_isSome_iff serving hcamera, table_isSome_iff serving hvideo,
    valid.paired camera video hcamera hvideo]

end BothServices

/-- One camera's two clients. No lookup throws, and both find a client or neither does.
The RPCs for the camera go to the clients that are found, so a camera RPC goes to a client
exactly when a video RPC does; where there is none, every RPC says so. -/
structure PairedLookups (c : Core) (cameraId : UInt32) : Prop where
  lookups : ∃ m camera video, c.clientManager = some m ∧
    m.getCameraServiceClient cameraId = .ok camera ∧
    m.getVideoServiceClient cameraId = .ok video ∧ (camera.isSome ↔ video.isSome)
  served : ∀ (rpc : CoreService), (relay rpc).cameraId = cameraId →
    ∀ (world : Downstream) (h : RequestHandler Core) (sent : List Sent) (channel : Channel),
      h.core = c → h.isRunning = true →
        (GrpcCallbackHandler.GoesTo world h rpc sent channel ↔
          c.table cameraId (relay rpc).service = some channel)
  requests : ∀ (camera video : CoreService), (relay camera).service = .camera →
    (relay video).service = .video → (relay camera).cameraId = cameraId →
      (relay video).cameraId = cameraId →
        ∀ (world : Downstream) (h : RequestHandler Core) (sent : List Sent), h.core = c →
          h.isRunning = true →
            ((∃ channel, GrpcCallbackHandler.GoesTo world h camera sent channel) ↔
              ∃ channel, GrpcCallbackHandler.GoesTo world h video sent channel)
  unavailable : ∀ (rpc : CoreService), (relay rpc).cameraId = cameraId →
    c.table cameraId (relay rpc).service = none →
      ∀ (world : Downstream) (h : RequestHandler Core) (sent : List Sent), h.core = c →
        h.isRunning = true →
        GrpcCallbackHandler.dispatch world h rpc sent =
          ((relay rpc).refuse ((relay rpc).service.name ++ " client for instance " ++
            toString cameraId ++ " is not available"), sent)

/-- After every successful start on an accepted configuration of both services the
two clients of a camera are there together or not at all, and a camera RPC goes to a
client exactly when a video RPC does, whatever the id. -/
theorem paired_routing {o : Core.StartOutcome} {core after : Core}
    (both : BothServices core.infrastructureConfig)
    (started : core.start o = some (.ok (), after)) (cameraId : UInt32) :
    PairedLookups after cameraId := by
  obtain ⟨-, same, serving⟩ := Core.start_ok started
  rw [← same] at both
  have paired := both.table_paired serving cameraId
  have served : ∀ (rpc : CoreService), (relay rpc).cameraId = cameraId →
      ∀ (world : Downstream) (h : RequestHandler Core) (sent : List Sent) (channel : Channel),
        h.core = after → h.isRunning = true →
          (GrpcCallbackHandler.GoesTo world h rpc sent channel ↔
            after.table cameraId (relay rpc).service = some channel) := by
    rintro rpc rfl world h sent channel rfl running
    rw [GrpcCallbackHandler.goesTo_iff, RequestHandler.table, if_pos ⟨running, serving.1⟩]
  refine ⟨?_, served, ?_, ?_⟩
  · obtain ⟨-, m, managed, -⟩ := id serving
    obtain ⟨_, camera⟩ := both.exists_table serving .camera
    obtain ⟨_, video⟩ := both.exists_table serving .video
    simp only [Core.table, managed, Option.bind_some] at paired camera video
    refine ⟨m, _, _, managed, GrpcClientManager.getCameraServiceClient_eq camera cameraId,
      GrpcClientManager.getVideoServiceClient_eq video cameraId, ?_⟩
    simpa [GrpcClientManager.table] using paired
  · intro camera video ofCamera ofVideo sameCamera sameVideo world h sent holds running
    simp only [served camera sameCamera world h sent _ holds running,
      served video sameVideo world h sent _ holds running, ofCamera, ofVideo,
      ← Option.isSome_iff_exists]
    exact paired
  · rintro rpc rfl missing world h sent rfl running
    obtain ⟨_, found⟩ := both.exists_table serving (relay rpc).service
    rw [GrpcCallbackHandler.dispatch_eq, RequestHandler.route, if_pos running,
      Core.route_missing serving.1 found missing]
    rfl

theorem paired_routing_pairedConfig :
    ∃ after, (Core.new Core.pairedConfig).start .fine = some (.ok (), after) ∧
      PairedLookups after 7 := by
  have ends : ((Core.new Core.pairedConfig).start .fine).isSome = true := rfl
  obtain ⟨⟨r, after⟩, ran⟩ := Option.isSome_iff_exists.mp ends
  have ok : r = .ok () := by
    have := congrArg (Option.map Prod.fst) ran
    exact (Option.some.inj this).symm
  subst ok
  refine ⟨after, ran, paired_routing ⟨rfl, fun service => ?_⟩ ran 7⟩
  cases service with
  | camera => exact ⟨_, rfl⟩
  | video => exact ⟨_, rfl⟩

end SensorCore.Api
