import SensorCore.Clients.Manager

/-!
What the instance loops leave in the client maps.

`routes config service` is the list of assignments a service's loop makes, in
order. `ServiceMaps.Routed` says that both maps of a service hold, under every id,
what the last assignment to that id put there, so the client under an id is built
on the channel under it. `initializeClients_ok` and `initializeClients_error` are
the two outcomes of `GrpcClientManager::initialize`: all routes of both services,
or nothing at all when the clean-up goes through.

Assignment is by id. A later instance with an id that was used before takes its
place, and validation lets repeated ids through, so an address can be lost:
`instances_kept_iff` says exactly when none is.
-/

namespace SensorCore.Clients

open SensorCore.Lib SensorCore.Config

/-! ### The assignments of one service -/

/-- The instances listed for a service; none when it is absent. -/
def instancesOf (config : InfrastructureConfig) (service : String) : List ServiceInstance :=
  match config.clients.lookup service with
  | none => []
  | some client => client.instances

theorem instancesOf_absent {config : InfrastructureConfig} {service : String}
    (absent : config.clients.lookup service = none) : instancesOf config service = [] := by
  rw [instancesOf, absent]

theorem instancesOf_found {config : InfrastructureConfig} {service : String} {client : ClientConfig}
    (found : config.clients.lookup service = some client) :
    instancesOf config service = client.instances := by
  rw [instancesOf, found]

/-- What the loop assigns from position `serial` on. -/
def assignments (service : String) : Nat → List ServiceInstance → List (UInt32 × Channel)
  | _, [] => []
  | serial, i :: rest =>
      (i.id, ⟨service, serial, i.address⟩) :: assignments service (serial + 1) rest

/-- What a service's loop assigns. -/
def routes (config : InfrastructureConfig) (service : String) : List (UInt32 × Channel) :=
  assignments service 0 (instancesOf config service)

@[simp] theorem assignments_keys (service : String) (serial : Nat) (is : List ServiceInstance) :
    (assignments service serial is).map Prod.fst = is.map ServiceInstance.id := by
  induction is generalizing serial with
  | nil => rfl
  | cons i rest ih => rw [assignments, List.map_cons, List.map_cons, ih]

/-- Every assignment is an instance of the list. -/
theorem assignments_sound {service : String} {id : UInt32} {channel : Channel} {serial : Nat}
    {is : List ServiceInstance} (mem : (id, channel) ∈ assignments service serial is) :
    channel.service = service ∧ (⟨id, channel.target⟩ : ServiceInstance) ∈ is := by
  induction is generalizing serial with
  | nil => cases mem
  | cons i rest ih =>
      rw [assignments] at mem
      rcases List.mem_cons.mp mem with here | later
      · cases here
        exact ⟨rfl, List.mem_cons_self⟩
      · obtain ⟨named, listed⟩ := ih later
        exact ⟨named, List.mem_cons_of_mem _ listed⟩

/-- An id has a route exactly when some instance lists it. -/
theorem route_isSome_iff {config : InfrastructureConfig} {service : String} {id : UInt32} :
    (lastValue id (routes config service)).isSome ↔ ∃ i ∈ instancesOf config service, i.id = id := by
  rw [lastValue_isSome_iff, routes, assignments_keys, List.mem_map]

/-- A route leads to an instance that is listed under its id. -/
theorem route_listed {config : InfrastructureConfig} {service : String} {id : UInt32}
    {channel : Channel} (route : lastValue id (routes config service) = some channel) :
    channel.service = service ∧
      (⟨id, channel.target⟩ : ServiceInstance) ∈ instancesOf config service :=
  assignments_sound (lastValue_mem route)

/-! ### The maps after the loop -/

/-- The maps hold exactly the routes: a channel under every id that has one, and
on each of them the client of that id. -/
structure ServiceMaps.Routed {C : Type} (stub : C → Channel) (routes : List (UInt32 × Channel))
    (maps : ServiceMaps C) : Prop where
  channels : ∀ id, maps.channels.lookup id = lastValue id routes
  clients : ∀ id, (maps.clients.lookup id).map stub = lastValue id routes

section Service

variable {C : Type} {net : Connect} {service : String} {factory : Channel → Except String C}
  {make : Channel → C} {stub : C → Channel}

theorem createChannel_ok {serial : Nat} {address : String} {channel : Channel}
    (created : createChannel net service serial address = .ok channel) :
    channel = ⟨service, serial, address⟩ := by
  simp only [createChannel, check_bind_eq_ok] at created
  obtain ⟨-, -, made⟩ := created
  cases made
  rfl

theorem newClient_ok {missing : String} {channel : Channel} {client : C}
    (created : newClient make missing net channel = .ok client) : client = make channel := by
  simp only [newClient, check_bind_eq_ok] at created
  obtain ⟨-, made⟩ := created
  cases made
  rfl

/-- A loop that ends has made all its assignments, to both maps. -/
theorem initializeInstances_ok (makes : ∀ channel client, factory channel = .ok client →
      client = make channel) {is : List ServiceInstance} {serial : Nat} {maps after : ServiceMaps C}
    (ran : initializeInstances net service factory serial is maps = (.ok (), after)) :
    after.channels = maps.channels.assignAll (assignments service serial is) ∧
      after.clients = maps.clients.assignAll
        ((assignments service serial is).map fun p => (p.1, make p.2)) := by
  induction is generalizing serial maps with
  | nil =>
      cases ran
      exact ⟨rfl, rfl⟩
  | cons i rest ih =>
      rw [initializeInstances] at ran
      cases hchannel : createChannel net service serial i.address with
      | error what => simp [hchannel] at ran
      | ok channel =>
          cases hclient : factory channel with
          | error what => simp [hchannel, hclient] at ran
          | ok client =>
              simp only [hchannel, hclient] at ran
              obtain ⟨channels, clients⟩ := ih ran
              rw [channels, clients, makes channel client hclient, createChannel_ok hchannel]
              exact ⟨rfl, rfl⟩

theorem initializeService_ok (makes : ∀ channel client, factory channel = .ok client →
      client = make channel) {config : InfrastructureConfig} {maps after : ServiceMaps C}
    (ran : initializeService net service factory config maps = (.ok (), after)) :
    after.channels = maps.channels.assignAll (routes config service) ∧
      after.clients = maps.clients.assignAll
        ((routes config service).map fun p => (p.1, make p.2)) := by
  cases found : config.clients.lookup service with
  | none =>
      rw [initializeService, found] at ran
      cases ran
      rw [routes, instancesOf_absent found]
      exact ⟨rfl, rfl⟩
  | some client =>
      simp only [initializeService, found] at ran
      rw [routes, instancesOf_found found]
      split at ran
      · rename_i none_listed
        cases ran
        rw [none_listed]
        exact ⟨rfl, rfl⟩
      · exact initializeInstances_ok makes ran

/-- The lookups in the maps of a service whose loop has ended. -/
theorem initializeService_lookup (makes : ∀ channel client, factory channel = .ok client →
      client = make channel) (built : ∀ channel, stub (make channel) = channel)
    {config : InfrastructureConfig} {maps after : ServiceMaps C}
    (ran : initializeService net service factory config maps = (.ok (), after)) (id : UInt32) :
    after.channels.lookup id = (lastValue id (routes config service)).or (maps.channels.lookup id) ∧
      (after.clients.lookup id).map stub =
        (lastValue id (routes config service)).or ((maps.clients.lookup id).map stub) := by
  obtain ⟨channels, clients⟩ := initializeService_ok makes ran
  rw [channels, clients, UnorderedMap.lookup_assignAll, UnorderedMap.lookup_assignAll,
    lastValue_map]
  refine ⟨rfl, ?_⟩
  cases lastValue id (routes config service) with
  | none => rfl
  | some channel => simp [built]

end Service

/-! ### The manager after `initialize` and `shutdown` -/

namespace GrpcClientManager

/-- Both services hold exactly the routes of the configuration. -/
structure Routed (m : GrpcClientManager) : Prop where
  camera : m.camera.Routed CameraServiceClient.stub (routes m.config "camera_service")
  video : m.video.Routed VideoServiceClient.stub (routes m.config "video_service")

@[simp] theorem shutdown_quiet (m : GrpcClientManager) :
    shutdown .quiet m = (.ok (), new m.config) := rfl

@[simp] theorem initializeServices_config (net : Connect) (m : GrpcClientManager) :
    (initializeServices net m).2.config = m.config := by
  unfold initializeServices
  split <;> rfl

/-- The two service loops of an `initialize` that succeeds. -/
theorem initializeClients_services {net : Connect} {cleanup : ShutdownOutcome}
    {m after : GrpcClientManager} (ran : initializeClients net cleanup m = (.ok (), after)) :
    after.config = m.config ∧
      initializeService net "camera_service" (CameraServiceClient.new net) m.config m.camera =
        (.ok (), after.camera) ∧
      initializeService net "video_service" (VideoServiceClient.new net) m.config m.video =
        (.ok (), after.video) := by
  rcases hservices : initializeServices net m with ⟨what | ⟨⟩, filled⟩
  · rcases hcleanup : shutdown cleanup filled with ⟨what' | ⟨⟩, cleaned⟩ <;>
      simp [initializeClients, hservices, hcleanup] at ran
  · simp only [initializeClients, hservices, Prod.mk.injEq, true_and] at ran
    subst ran
    rcases hcamera : initializeService net "camera_service" (CameraServiceClient.new net)
      m.config m.camera with ⟨what | ⟨⟩, camera⟩
    · simp [initializeServices, hcamera] at hservices
    · rcases hvideo : initializeService net "video_service" (VideoServiceClient.new net)
        m.config m.video with ⟨result, video⟩
      simp only [initializeServices, hcamera, hvideo, Prod.mk.injEq] at hservices
      obtain ⟨rfl, rfl⟩ := hservices
      exact ⟨rfl, rfl, rfl⟩

/-- What `getCameraServiceClient` and `getVideoServiceClient` look up after an
`initialize` that succeeds: the last route of the id, else what was there. -/
theorem initializeClients_lookup {net : Connect} {cleanup : ShutdownOutcome}
    {m after : GrpcClientManager} (ran : initializeClients net cleanup m = (.ok (), after))
    (id : UInt32) :
    (after.camera.clients.lookup id).map CameraServiceClient.stub =
        (lastValue id (routes m.config "camera_service")).or
          ((m.camera.clients.lookup id).map CameraServiceClient.stub) ∧
      (after.video.clients.lookup id).map VideoServiceClient.stub =
        (lastValue id (routes m.config "video_service")).or
          ((m.video.clients.lookup id).map VideoServiceClient.stub) := by
  obtain ⟨-, camera, video⟩ := initializeClients_services ran
  exact ⟨(initializeService_lookup (fun _ _ => newClient_ok) (fun _ => rfl) camera id).2,
    (initializeService_lookup (fun _ _ => newClient_ok) (fun _ => rfl) video id).2⟩

/-- An `initialize` of a new manager that succeeds routes both services. -/
theorem initializeClients_ok {net : Connect} {cleanup : ShutdownOutcome}
    {config : InfrastructureConfig} {after : GrpcClientManager}
    (ran : initializeClients net cleanup (new config) = (.ok (), after)) :
    after.config = config ∧ after.Routed := by
  obtain ⟨same, camera, video⟩ := initializeClients_services ran
  have built : ∀ channel, CameraServiceClient.stub ⟨channel⟩ = channel := fun _ => rfl
  have built' : ∀ channel, VideoServiceClient.stub ⟨channel⟩ = channel := fun _ => rfl
  have hcamera := initializeService_lookup (fun _ _ => newClient_ok) built camera
  have hvideo := initializeService_lookup (fun _ _ => newClient_ok) built' video
  have fresh : ∀ {o : Option Channel}, o.or none = o := Option.or_none
  refine ⟨same, ⟨?_, ?_⟩, ⟨?_, ?_⟩⟩
  · intro id
    rw [same, (hcamera id).1]
    exact fresh
  · intro id
    rw [same, (hcamera id).2]
    exact fresh
  · intro id
    rw [same, (hvideo id).1]
    exact fresh
  · intro id
    rw [same, (hvideo id).2]
    exact fresh

/-- An `initialize` that fails leaves nothing when its clean-up goes through. -/
theorem initializeClients_error {net : Connect} {what : String} {m after : GrpcClientManager}
    (ran : initializeClients net .quiet m = (.error what, after)) : after = new m.config := by
  have same := initializeServices_config net m
  rcases hservices : initializeServices net m with ⟨what' | ⟨⟩, filled⟩
  · rw [hservices] at same
    simp only [initializeClients, hservices, shutdown_quiet, Prod.mk.injEq] at ran
    rw [← ran.2, ← same]
  · simp [initializeClients, hservices] at ran

/-! ### Lookups through the router -/

theorem isConfigured_iff {C : Type} {clients : UnorderedMap UInt32 C} :
    isConfigured clients = true ↔ ∃ id, (clients.lookup id).isSome := by
  simp only [isConfigured, Bool.not_eq_true', List.isEmpty_eq_false_iff, AList.lookup_isSome]
  constructor
  · intro nonempty
    obtain ⟨entry, mem⟩ := List.exists_mem_of_ne_nil _ nonempty
    exact ⟨entry.1, AList.mem_keys.mpr (List.mem_map_of_mem mem)⟩
  · rintro ⟨id, mem⟩ empty
    rw [AList.mem_keys, AList.keys, empty] at mem
    exact absurd mem (by simp)

/-- With a client in the map, a lookup does not throw. -/
theorem getServiceClient_configured {C : Type} {service : String} {clients : UnorderedMap UInt32 C}
    (configured : isConfigured clients = true) (id : UInt32) :
    getServiceClient service id clients = .ok (clients.lookup id) := by
  simp [getServiceClient, throwIf, configured, getClient, bind, Except.bind, pure, Except.pure]

/-- A lookup returns the client under the id, and only that. -/
theorem getServiceClient_found_iff {C : Type} {service : String} {id : UInt32}
    {clients : UnorderedMap UInt32 C} {client : C} :
    getServiceClient service id clients = .ok (some client) ↔ clients.lookup id = some client := by
  constructor
  · intro found
    simp only [getServiceClient, check_bind_eq_ok] at found
    exact Except.ok.inj found.2
  · intro found
    rw [getServiceClient_configured (isConfigured_iff.mpr ⟨id, by rw [found]; rfl⟩), found]

/-! ### Which instances are kept -/

/-- Every listed instance is reached under its id, at its address. -/
structure InstancesKept (config : InfrastructureConfig) (m : GrpcClientManager) : Prop where
  camera : ∀ i ∈ instancesOf config "camera_service", ∃ client,
    m.getCameraServiceClient i.id = .ok (some client) ∧ client.stub.target = i.address
  video : ∀ i ∈ instancesOf config "video_service", ∃ client,
    m.getVideoServiceClient i.id = .ok (some client) ∧ client.stub.target = i.address

/-- No id is listed with two addresses. -/
def OneAddressPerId (is : List ServiceInstance) : Prop :=
  ∀ i ∈ is, ∀ j ∈ is, i.id = j.id → i.address = j.address

instance (is : List ServiceInstance) : Decidable (OneAddressPerId is) :=
  inferInstanceAs (Decidable (∀ i ∈ is, ∀ j ∈ is, i.id = j.id → i.address = j.address))

/-- One service: its instances are all kept exactly when no id has two addresses.
A second address under an id takes the place of the first. -/
theorem service_kept_iff {C : Type} {stub : C → Channel} {config : InfrastructureConfig}
    {service : String} {clients : UnorderedMap UInt32 C} {old : UInt32 → Option Channel}
    (lookup : ∀ id, (clients.lookup id).map stub =
      (lastValue id (routes config service)).or (old id)) :
    (∀ i ∈ instancesOf config service, ∃ client,
        getServiceClient service i.id clients = .ok (some client) ∧
          (stub client).target = i.address) ↔
      OneAddressPerId (instancesOf config service) := by
  simp only [getServiceClient_found_iff]
  constructor
  · intro kept i hi j hj same
    obtain ⟨client, found, target⟩ := kept i hi
    obtain ⟨client', found', target'⟩ := kept j hj
    rw [← same, found] at found'
    cases found'
    exact target.symm.trans target'
  · intro single i hi
    obtain ⟨channel, hroute⟩ := Option.isSome_iff_exists.mp (route_isSome_iff.mpr ⟨i, hi, rfl⟩)
    have found := lookup i.id
    rw [hroute, Option.some_or, Option.map_eq_some_iff] at found
    obtain ⟨client, hclient, hstub⟩ := found
    refine ⟨client, hclient, ?_⟩
    rw [hstub]
    exact single _ (route_listed hroute).2 i hi rfl

/-- After an `initialize` that succeeds every listed instance is kept exactly when
neither service lists an id with two addresses. Validation does not ask for that. -/
theorem instances_kept_iff {net : Connect} {cleanup : ShutdownOutcome}
    {m after : GrpcClientManager} (ran : initializeClients net cleanup m = (.ok (), after)) :
    InstancesKept m.config after ↔
      OneAddressPerId (instancesOf m.config "camera_service") ∧
        OneAddressPerId (instancesOf m.config "video_service") := by
  have lookup := initializeClients_lookup ran
  have camera := service_kept_iff fun id => (lookup id).1
  have video := service_kept_iff fun id => (lookup id).2
  exact ⟨fun kept => ⟨camera.mp kept.camera, video.mp kept.video⟩,
    fun single => ⟨camera.mpr single.1, video.mpr single.2⟩⟩

/-- A camera service with two ids. -/
def twoCameras : InfrastructureConfig :=
  ⟨UnorderedMap.emplace ∅ "camera_service" ⟨[⟨0, "left:50050"⟩, ⟨1, "right:50050"⟩]⟩⟩

theorem twoCameras_kept :
    InstancesKept twoCameras (initializeClients .all .quiet (new twoCameras)).2 := by
  have ran : initializeClients .all .quiet (new twoCameras) =
      (.ok (), (initializeClients .all .quiet (new twoCameras)).2) := rfl
  exact (instances_kept_iff ran).mpr ⟨by decide, by decide⟩

/-- A camera service that lists id 0 twice. -/
def repeatedCamera : InfrastructureConfig :=
  ⟨UnorderedMap.emplace ∅ "camera_service" ⟨[⟨0, "left:50050"⟩, ⟨0, "right:50050"⟩]⟩⟩

/-- Validation accepts the repeated id, and the first address is lost. -/
theorem repeatedCamera_loses_address :
    ¬ ∀ (config : InfrastructureConfig) (net : Connect) (cleanup : ShutdownOutcome)
      (after : GrpcClientManager), config.validate = .ok () →
        initializeClients net cleanup (new config) = (.ok (), after) →
        InstancesKept config after := by
  intro kept
  have accepted : repeatedCamera.validate = .ok () := rfl
  have ran : initializeClients .all .quiet (new repeatedCamera) =
      (.ok (), (initializeClients .all .quiet (new repeatedCamera)).2) := rfl
  have last : (initializeClients .all .quiet (new repeatedCamera)).2.getCameraServiceClient 0 =
      .ok (some ⟨⟨"camera_service", 1, "right:50050"⟩⟩) := rfl
  obtain ⟨client, found, target⟩ := (kept _ _ _ _ accepted ran).camera
    ⟨0, "left:50050"⟩ (by decide)
  rw [last] at found
  obtain rfl := Option.some.inj (Except.ok.inj found)
  exact absurd target (by decide)

end GrpcClientManager

end SensorCore.Clients
