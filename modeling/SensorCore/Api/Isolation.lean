import SensorCore.Lib.Views
import SensorCore.Api.Relay

/-!
One camera among the others.

Requests are told apart by their camera id only, and the downstream instances by
the entry they are configured in. When each instance answers from the calls it has
itself received (`Downstream.ownHistory`), what a camera is asked and what it answers
make up a server of their own: `lone`, which knows the behaviour of the camera's two
instances and nothing of the rest. `lone_isView` shows that this is a view of the whole
stack, because a client is on its own channel (`table_inj`).

`camera_isolated` compares two stacks. Which instance an id leads to depends on the
entries of that id alone (`table_target`), so two configurations that agree on them
give the camera the same lone server, whatever they list for others.
-/

namespace SensorCore.Api

open SensorCore.Lib SensorCore.Config SensorCore.Clients

/-! ### Entries and channels -/

/-- Positions only go up along a list of assignments. -/
theorem assignments_serial {service : String} {p : UInt32 × Channel} {serial : Nat}
    {is : List ServiceInstance} (mem : p ∈ assignments service serial is) :
    serial ≤ p.2.serial := by
  induction is generalizing serial with
  | nil => cases mem
  | cons i rest ih =>
      rw [assignments] at mem
      rcases List.mem_cons.mp mem with rfl | later
      · exact Nat.le_refl _
      · have above := ih later
        omega

/-- No channel is assigned to two ids. -/
theorem assignments_inj {service : String} {id id' : UInt32} {channel : Channel} {serial : Nat}
    {is : List ServiceInstance} (mem : (id, channel) ∈ assignments service serial is)
    (mem' : (id', channel) ∈ assignments service serial is) : id = id' := by
  induction is generalizing serial with
  | nil => cases mem
  | cons i rest ih =>
      rw [assignments] at mem mem'
      rcases List.mem_cons.mp mem with here | later
      · rcases List.mem_cons.mp mem' with here' | later'
        · cases here
          cases here'
          rfl
        · cases here
          have above : serial + 1 ≤ serial := assignments_serial later'
          omega
      · rcases List.mem_cons.mp mem' with here' | later'
        · cases here'
          have above : serial + 1 ≤ serial := assignments_serial later
          omega
        · exact ih later later'

/-- The addresses along the assignments are those of the entries. -/
theorem assignments_targets (service : String) (serial : Nat) (is : List ServiceInstance) :
    (assignments service serial is).map (fun p => (p.1, p.2.target)) =
      is.map fun i => (i.id, i.address) := by
  induction is generalizing serial with
  | nil => rfl
  | cons i rest ih => rw [assignments, List.map_cons, List.map_cons, ih]

/-- The address an id leads to depends on the entries of that id alone. -/
theorem route_target (config : InfrastructureConfig) (service : String) (id : UInt32) :
    (lastValue id (routes config service)).map Channel.target =
      lastValue id (((instancesOf config service).filter fun i => i.id = id).map
        fun i => (i.id, i.address)) := by
  rw [← lastValue_map, routes, assignments_targets, ← lastValue_filter, List.filter_map]
  rfl

theorem Service.name_injective {service service' : Service}
    (same : service.name = service'.name) : service = service' := by
  cases service <;> cases service' <;> first | rfl | exact absurd same (by decide)

section Serving

variable {c : Core} {id id' : UInt32} {service service' : Service} {channel : Channel}

/-- The channels of a serving core's clients are all different. -/
theorem table_inj (serving : c.Serving) (found : c.table id service = some channel)
    (found' : c.table id' service' = some channel) : id = id' ∧ service = service' := by
  rw [serving.table_eq] at found found'
  have named := (route_listed found).1
  have named' := (route_listed found').1
  obtain rfl := Service.name_injective (named.symm.trans named')
  exact ⟨assignments_inj (lastValue_mem found) (lastValue_mem found'), rfl⟩

/-- Where a client leads to depends on the entries of its id alone. -/
theorem table_target (serving : c.Serving) (id : UInt32) (service : Service) :
    (c.table id service).map Channel.target =
      lastValue id (((instancesOf c.infrastructureConfig service.name).filter fun i =>
        i.id = id).map fun i => (i.id, i.address)) := by
  rw [serving.table_eq, route_target]

end Serving

/-! ### Instances that answer for themselves -/

/-- A downstream instance: its answer to a call, after the calls it received before. -/
abbrev Behaviour := List Call → (call : Call) → Except String call.Response

/-- The calls received on a channel. -/
def received (channel : Channel) (sent : List Sent) : List Call :=
  (sent.filter fun s => s.channel = channel).map Sent.call

/-- Every instance answers from the calls it has itself received. -/
def ownHistory (behave : Channel → Behaviour) : Downstream := fun sent channel call =>
  behave channel (received channel sent) call

/-! ### One camera -/

/-- The service that a channel of the camera belongs to. -/
def serviceOf (table : Service → Option Channel) (channel : Channel) : Option Service :=
  if table .camera = some channel then some .camera
  else if table .video = some channel then some .video
  else none

/-- The calls received by the two clients of a camera, in order. -/
def cameraCalls (table : Service → Option Channel) (sent : List Sent) : List (Service × Call) :=
  sent.filterMap fun s => (serviceOf table s.channel).map fun service => (service, s.call)

/-- Those received by one of them. -/
def callsOf (service : Service) (calls : List (Service × Call)) : List Call :=
  (calls.filter fun p => p.1 = service).map Prod.snd

theorem received_append (channel : Channel) (sent sent' : List Sent) :
    received channel (sent ++ sent') = received channel sent ++ received channel sent' := by
  simp [received]

theorem cameraCalls_append (table : Service → Option Channel) (sent sent' : List Sent) :
    cameraCalls table (sent ++ sent') = cameraCalls table sent ++ cameraCalls table sent' :=
  List.filterMap_append

theorem callsOf_append (service : Service) (calls calls' : List (Service × Call)) :
    callsOf service (calls ++ calls') = callsOf service calls ++ callsOf service calls' := by
  simp [callsOf]

/-- A call on a channel of the camera. -/
theorem cameraCalls_own {table : Service → Option Channel} {service : Service} {s : Sent}
    (mine : serviceOf table s.channel = some service) :
    cameraCalls table [s] = [(service, s.call)] := by
  simp [cameraCalls, mine]

/-- A call on another channel. -/
theorem cameraCalls_other {table : Service → Option Channel} {s : Sent}
    (other : serviceOf table s.channel = none) : cameraCalls table [s] = [] := by
  simp [cameraCalls, other]

/-- A camera with its two instances and nothing else. -/
def lone (instances : Service → Option Behaviour) (rpc : CoreService)
    (calls : List (Service × Call)) : Reply rpc.Response × List (Service × Call) :=
  let r := relay rpc
  match instances r.service with
  | none =>
      (r.refuse (r.service.name ++ " client for instance " ++ toString r.cameraId ++
        " is not available"), calls)
  | some behave => (r.reply (behave (callsOf r.service calls) r.call), calls ++ [(r.service, r.call)])

/-- The two clients of a camera are on different channels. -/
def Apart (table : Service → Option Channel) : Prop :=
  ∀ ⦃service service' channel⦄, table service = some channel → table service' = some channel →
    service = service'

theorem table_apart {c : Core} (serving : c.Serving) (cameraId : UInt32) :
    Apart (c.table cameraId) :=
  fun _ _ _ found found' => (table_inj serving found found').2

section Lone

variable {table : Service → Option Channel} (apart : Apart table)

include apart

theorem serviceOf_eq_some {service : Service} {channel : Channel} :
    serviceOf table channel = some service ↔ table service = some channel := by
  unfold serviceOf
  split
  · rename_i camera
    constructor
    · rintro ⟨⟩
      exact camera
    · intro found
      rw [apart camera found]
  · rename_i camera
    split
    · rename_i video
      constructor
      · rintro ⟨⟩
        exact video
      · intro found
        rw [apart video found]
    · rename_i video
      constructor
      · intro absurd
        cases absurd
      · intro found
        cases service with
        | camera => exact absurd found camera
        | video => exact absurd found video

/-- What a client received is there among the calls of its camera. -/
theorem received_eq {service : Service} {channel : Channel} (found : table service = some channel)
    (sent : List Sent) : received channel sent = callsOf service (cameraCalls table sent) := by
  induction sent with
  | nil => rfl
  | cons s rest ih =>
      rw [← List.singleton_append, received_append, cameraCalls_append, callsOf_append, ih]
      congr 1
      by_cases own : s.channel = channel
      · have mine : serviceOf table s.channel = some service :=
          (serviceOf_eq_some apart).mpr (own ▸ found)
        rw [cameraCalls_own mine]
        simp [received, callsOf, own]
      · cases belongs : serviceOf table s.channel with
        | none =>
            rw [cameraCalls_other belongs]
            simp [received, callsOf, own]
        | some service' =>
            have other : service' ≠ service := by
              rintro rfl
              have same := (serviceOf_eq_some apart).mp belongs
              exact own (Option.some.inj (same.symm.trans found))
            rw [cameraCalls_own belongs]
            simp [received, callsOf, own, other]

end Lone

/-- The lone server of a camera in a core. -/
def loneIn (c : Core) (behave : Channel → Behaviour) (cameraId : UInt32) :
    (rpc : CoreService) → List (Service × Call) → Reply rpc.Response × List (Service × Call) :=
  lone fun service => (c.table cameraId service).map behave

/-- The requests for a camera. -/
def addressed (cameraId : UInt32) (rpc : CoreService) : Bool := (relay rpc).cameraId = cameraId

section View

variable {h : RequestHandler Core} (running : h.isRunning = true) (serving : h.core.Serving)
  (behave : Channel → Behaviour)

include running serving

/-- An RPC for the camera is answered by the lone server. -/
theorem dispatch_lone (both : BothServices h.core.infrastructureConfig) (rpc : CoreService)
    (sent : List Sent) :
    let table := h.core.table (relay rpc).cameraId
    let answer := GrpcCallbackHandler.dispatch (ownHistory behave) h rpc sent
    let answer' := loneIn h.core behave (relay rpc).cameraId rpc (cameraCalls table sent)
    answer.1 = answer'.1 ∧ cameraCalls table answer.2 = answer'.2 := by
  intro table answer answer'
  have route : h.route (relay rpc) =
      h.core.route (relay rpc).service (relay rpc).operation (relay rpc).cameraId :=
    if_pos running
  have dispatched : answer = (relay rpc).serve (ownHistory behave) sent (h.route (relay rpc)) :=
    GrpcCallbackHandler.dispatch_eq _ _ _ _
  cases found : table (relay rpc).service with
  | none =>
      obtain ⟨_, configured⟩ := both.exists_table serving (relay rpc).service
      have alone : answer' = ((relay rpc).refuse ((relay rpc).service.name ++
          " client for instance " ++ toString (relay rpc).cameraId ++ " is not available"),
          cameraCalls table sent) := by
        simp only [answer', loneIn, lone, show h.core.table _ _ = none from found, Option.map_none]
      rw [dispatched, alone, route, Core.route_missing serving.1 configured found]
      exact ⟨rfl, rfl⟩
  | some channel =>
      have apart := table_apart serving (relay rpc).cameraId
      have heard := received_eq apart found sent
      have mine : serviceOf table channel = some (relay rpc).service :=
        (serviceOf_eq_some apart).mpr found
      have alone : answer' = ((relay rpc).reply
            (behave channel (callsOf (relay rpc).service (cameraCalls table sent)) (relay rpc).call),
          cameraCalls table sent ++ [((relay rpc).service, (relay rpc).call)]) := by
        simp only [answer', loneIn, lone, show h.core.table _ _ = some channel from found,
          Option.map_some]
      rw [dispatched, alone, route, Core.route_ok_iff.mpr ⟨serving.1, found⟩, Relay.serve,
        cameraCalls_append, cameraCalls_own mine, ownHistory, heard]
      exact ⟨rfl, rfl⟩

/-- An RPC for another camera is not seen. -/
theorem dispatch_unseen (rpc : CoreService) {cameraId : UInt32}
    (other : (relay rpc).cameraId ≠ cameraId) (sent : List Sent) :
    cameraCalls (h.core.table cameraId)
        (GrpcCallbackHandler.dispatch (ownHistory behave) h rpc sent).2 =
      cameraCalls (h.core.table cameraId) sent := by
  rw [GrpcCallbackHandler.dispatch_eq, RequestHandler.route, if_pos running]
  cases routed : h.core.route (relay rpc).service (relay rpc).operation (relay rpc).cameraId with
  | error text => rfl
  | ok channel =>
      have found := (Core.route_ok_iff.mp routed).2
      have unseen : serviceOf (h.core.table cameraId) channel = none := by
        cases belongs : serviceOf (h.core.table cameraId) channel with
        | none => rfl
        | some service =>
            have mine := (serviceOf_eq_some (table_apart serving cameraId)).mp belongs
            exact absurd (table_inj serving found mine).1 other
      rw [Relay.serve, cameraCalls_append, cameraCalls_other unseen, List.append_nil]

/-- The stack, seen from one camera, is the lone server of that camera. -/
theorem lone_isView (both : BothServices h.core.infrastructureConfig) (cameraId : UInt32) :
    IsView (addressed cameraId) (cameraCalls (h.core.table cameraId))
      (GrpcCallbackHandler.dispatch (ownHistory behave) h) (loneIn h.core behave cameraId) where
  seen rpc sent mine := by
    obtain rfl := of_decide_eq_true mine
    exact dispatch_lone running serving behave both rpc sent
  unseen rpc sent other :=
    dispatch_unseen running serving behave rpc (of_decide_eq_false other) sent

end View

/-! ### Two stacks -/

/-- Two serving cores that list the same entries for a camera give it the same lone
server, when the instances these lead to behave the same. -/
theorem loneIn_eq {c c' : Core} (serving : c.Serving) (serving' : c'.Serving) {cameraId : UInt32}
    (sameEntries : ∀ service : Service,
      (instancesOf c.infrastructureConfig service.name).filter (fun i => i.id = cameraId) =
        (instancesOf c'.infrastructureConfig service.name).filter fun i => i.id = cameraId)
    {behave behave' : Channel → Behaviour}
    (sameInstances : ∀ service channel channel', c.table cameraId service = some channel →
      c'.table cameraId service = some channel' → channel.target = channel'.target →
        behave channel = behave' channel') :
    loneIn c behave cameraId = loneIn c' behave' cameraId := by
  have same : ∀ service, (c.table cameraId service).map behave =
      (c'.table cameraId service).map behave' := by
    intro service
    have target := table_target serving cameraId service
    rw [sameEntries, ← table_target serving' cameraId service] at target
    cases found : c.table cameraId service with
    | none =>
        rw [found, Option.map_none] at target
        rw [Option.map_eq_none_iff.mp target.symm]
        rfl
    | some channel =>
        rw [found, Option.map_some] at target
        obtain ⟨channel', found', reached⟩ := Option.map_eq_some_iff.mp target.symm
        rw [found', Option.map_some, Option.map_some,
          sameInstances service channel channel' found found' reached.symm]
  unfold loneIn
  rw [funext same]

/-- Two stacks that list the same entries for a camera, each started on a
configuration of both services, and two lists of RPCs with the same requests for that
camera: its requests are answered alike, and its clients make the same calls. -/
theorem camera_isolated {h h' after after' : RequestHandler Core} {o o' : Core.StartOutcome}
    (both : BothServices h.core.infrastructureConfig)
    (both' : BothServices h'.core.infrastructureConfig)
    (started : h.start coreLifecycle o = some (.ok (), after))
    (started' : h'.start coreLifecycle o' = some (.ok (), after')) {cameraId : UInt32}
    (sameEntries : ∀ service : Service,
      (instancesOf h.core.infrastructureConfig service.name).filter (fun i => i.id = cameraId) =
        (instancesOf h'.core.infrastructureConfig service.name).filter fun i => i.id = cameraId)
    {behave behave' : Channel → Behaviour}
    (sameInstances : ∀ service channel channel',
      after.core.table cameraId service = some channel →
      after'.core.table cameraId service = some channel' → channel.target = channel'.target →
        behave channel = behave' channel')
    {rpcs rpcs' : List CoreService}
    (sameRequests : rpcs.filter (addressed cameraId) = rpcs'.filter (addressed cameraId)) :
    let run := serveAll (GrpcCallbackHandler.dispatch (ownHistory behave) after) rpcs []
    let run' := serveAll (GrpcCallbackHandler.dispatch (ownHistory behave') after') rpcs' []
    run.1.filter (fun answer => addressed cameraId answer.1) =
        run'.1.filter (fun answer => addressed cameraId answer.1) ∧
      cameraCalls (after.core.table cameraId) run.2 =
        cameraCalls (after'.core.table cameraId) run'.2 := by
  intro run run'
  obtain ⟨-, running, serving, config⟩ := Stack.handler_start_ok started
  obtain ⟨-, running', serving', config'⟩ := Stack.handler_start_ok started'
  rw [← config] at both sameEntries
  rw [← config'] at both' sameEntries
  have lone := loneIn_eq serving serving' sameEntries sameInstances
  obtain ⟨answers, calls⟩ :=
    (lone_isView running serving behave both cameraId).serveAll rpcs []
  obtain ⟨answers', calls'⟩ :=
    (lone_isView running' serving' behave' both' cameraId).serveAll rpcs' []
  rw [sameRequests, lone] at answers calls
  exact ⟨answers.trans answers'.symm, calls.trans calls'.symm⟩

/-- Camera 0 as in `pairedConfig`, next to another neighbour. -/
def movedConfig : InfrastructureConfig :=
  ⟨UnorderedMap.emplace (UnorderedMap.emplace ∅
    "camera_service" ⟨[⟨5, "far:1"⟩, ⟨0, "left:50050"⟩]⟩)
    "video_service" ⟨[⟨0, "left:50060"⟩, ⟨5, "far:2"⟩]⟩⟩

/-- A handler after its first start. -/
def startedOn (config : InfrastructureConfig) : RequestHandler Core :=
  match RequestHandler.start coreLifecycle .fine ⟨Core.new config, false⟩ with
  | some (_, after) => after
  | none => ⟨Core.new config, false⟩

/-- An instance that refuses every call with the number of calls before it. -/
def counting : Behaviour := fun before _ => .error (toString before.length)

theorem camera_isolated_moved :
    let rpcs := [.getZoom 1, .setZoom 0 5, .getInfo 1, .getVideoCapabilities 0]
    let rpcs' := [.setZoom 0 5, .getZoom 5, .getVideoCapabilities 0]
    let run := serveAll (GrpcCallbackHandler.dispatch (ownHistory fun _ => counting)
      (startedOn Core.pairedConfig)) rpcs []
    let run' := serveAll (GrpcCallbackHandler.dispatch (ownHistory fun _ => counting)
      (startedOn movedConfig)) rpcs' []
    run.1.filter (fun answer => addressed 0 answer.1) =
        run'.1.filter (fun answer => addressed 0 answer.1) ∧
      cameraCalls ((startedOn Core.pairedConfig).core.table 0) run.2 =
        cameraCalls ((startedOn movedConfig).core.table 0) run'.2 := by
  have both : BothServices Core.pairedConfig := ⟨rfl, fun service => by
    cases service <;> exact ⟨_, rfl⟩⟩
  have both' : BothServices movedConfig := ⟨rfl, fun service => by
    cases service <;> exact ⟨_, rfl⟩⟩
  have started : RequestHandler.start coreLifecycle .fine ⟨Core.new Core.pairedConfig, false⟩ =
      some (.ok (), startedOn Core.pairedConfig) := rfl
  have started' : RequestHandler.start coreLifecycle .fine ⟨Core.new movedConfig, false⟩ =
      some (.ok (), startedOn movedConfig) := rfl
  refine camera_isolated both both' started started' ?_ (fun _ _ _ _ _ _ => rfl) rfl
  intro service
  cases service <;> rfl

end SensorCore.Api
