import SensorCore.Api.Transport
import SensorCore.Core.Operations

/-!
The stack with its threads.

One thread at a time calls `startAsync` or `stop`; each start spawns a thread for the
run loop; gRPC runs a handler for every RPC that a server accepts. The machine takes
the reads and writes of shared state one by one: the flags of the controller, the
handler, the core and the transport, the server pointer, the client manager. A step is
made by the controlling thread (`ctrl`), a run loop (`loop`) or an RPC (`rpc`), and the
label carries what the outside world does in it.

Of gRPC the machine has this: a server accepts RPCs once it is built with a port and
until `Shutdown` is called on it, and `Shutdown` returns when none of its RPCs is left.
`Wait` can return once its server has been shut down, even when the server is gone by
then, and a downstream call can return at any time; whether they do is not said.
`initialize` and `shutdown` of the client manager are one step each.

The sequential model in `Api.Controller` and `Core.Lifecycle` takes a call as one step;
here the same methods are cut at every point where another thread can look.
-/

namespace SensorCore.Threads

open SensorCore.Lib SensorCore.Config SensorCore.Clients SensorCore.Api

/-! ### The threads -/

/-- Where the controlling thread is: what it does next. -/
inductive Phase where
  | idle
  -- `Core::start`, from `RequestHandler::start`
  | coreTest
  | newManager
  | fillManager
  | cleanup
  | coreRaise
  | handlerRaise
  -- `GrpcTransport::start`
  | build
  | buildTest (selectedPort : Nat)
  | transportRaise
  -- the rest of `startAsync`; the new thread is the `loop`-th
  | apiRaise
  | spawn
  | join (loop : Nat)
  -- `ApiController::stop`
  | apiTest
  | apiLower
  -- `GrpcTransport::stop`
  | transportTest
  | serverTest
  | shutdownCall
  | shutdownReturn
  | serverReset
  | transportLower
  -- `RequestHandler::stop`, also after a transport that did not start
  | handlerTest
  | handlerLower
  -- `Core::stop`
  | coreStopTest
  | clear
  | managerReset
  | coreLower
  deriving DecidableEq, Repr

/-- A run-loop thread. -/
inductive Loop where
  | spawned
  /-- `server_` was not null. -/
  | tested
  | waiting (server : Server)
  /-- The run loop has returned its error; `is_running_ = false` is still to come. -/
  | failed
  | finished
  /-- It ended after storing `false`. -/
  | stored
  /-- It went on through a null `server_`. -/
  | faulted
  deriving DecidableEq, Repr

/-- How an RPC ends. -/
inductive Outcome where
  | notRunning
  | notInitialized
  /-- Through a null client manager. -/
  | crashed
  | notConfigured
  | unavailable
  | called
  deriving DecidableEq, Repr

inductive Stage where
  | accepted
  | handlerTested
  | coreTested
  /-- It has a client pointer; the channel says which. -/
  | holding (client : Channel)
  | finished (outcome : Outcome)
  deriving DecidableEq, Repr

/-- An RPC: the server that accepted it, what it asks for, and how far it is. -/
structure Rpc where
  server : Server
  service : Service
  cameraId : UInt32
  stage : Stage
  deriving DecidableEq, Repr

def Rpc.InFlight (r : Rpc) : Prop := ∀ outcome, r.stage ≠ .finished outcome

instance (r : Rpc) : Decidable r.InFlight :=
  match h : r.stage with
  | .finished outcome => isFalse fun inFlight => inFlight outcome h
  | .accepted | .handlerTested | .coreTested | .holding _ => isTrue fun _ => by simp [h]

/-- The shared state and the threads. Servers are numbered in the order of building. -/
structure Sys where
  isRunning : Bool
  handlerRunning : Bool
  coreRunning : Bool
  clientManager : Option GrpcClientManager
  transport : GrpcTransport
  phase : Phase
  serviceThread : Option Nat
  loops : List Loop
  rpcs : List Rpc
  nextServer : Server
  /-- Servers that were built with a port. -/
  bound : List Server
  /-- Servers that `Shutdown` was called on, or that were destroyed. -/
  shut : List Server
  /-- When the latest completed call is a successful `startAsync`: its run loop and its
  server. -/
  started : Option (Nat × Server)

namespace Sys

def init : Sys where
  isRunning := false
  handlerRunning := false
  coreRunning := false
  clientManager := none
  transport := .new
  phase := .idle
  serviceThread := none
  loops := []
  rpcs := []
  nextServer := 0
  bound := []
  shut := []
  started := none

/-- The server takes new RPCs. -/
def Accepts (s : Sys) (server : Server) : Prop := server ∈ s.bound ∧ server ∉ s.shut

instance (s : Sys) (server : Server) : Decidable (s.Accepts server) :=
  inferInstanceAs (Decidable (_ ∧ _))

/-- Some RPC of the current server is in flight. -/
def Serves (s : Sys) : Prop := ∃ r ∈ s.rpcs, r.InFlight ∧ s.transport.server = some r.server

instance (s : Sys) : Decidable s.Serves := inferInstanceAs (Decidable (∃ r ∈ s.rpcs, _))

/-- The call returns, other than with a successful start. -/
def complete (s : Sys) : Sys := { s with phase := .idle, started := none }

end Sys

/-! ### Steps -/

/-- What the outside world does in a step of the controlling thread; a step uses the
part it asks for. -/
structure World where
  shutdown : ShutdownOutcome
  net : Connect
  build : Bool
  selectedPort : Nat

/-- Everything succeeds. -/
def World.fine : World := ⟨.quiet, .all, true, 50051⟩

/-- gRPC never returns a server without a bound port. -/
def World.Bound (w : World) : Prop := w.build = true → w.selectedPort ≠ 0

instance (w : World) : Decidable w.Bound :=
  inferInstanceAs (Decidable (w.build = true → w.selectedPort ≠ 0))

/-- The server that is replaced is destroyed; the new one counts as accepting when it
has a port. -/
def Sys.build (w : World) (s : Sys) : Sys :=
  { s with
    transport := { s.transport with server := if w.build then some s.nextServer else none }
    nextServer := s.nextServer + 1
    bound := if w.build ∧ w.selectedPort ≠ 0 then s.nextServer :: s.bound else s.bound
    shut := s.transport.server.toList ++ s.shut
    phase := .buildTest w.selectedPort }

/-- The old thread has ended, if there was one. -/
def Sys.joinable (s : Sys) : Prop :=
  ∀ i, s.serviceThread = some i → s.loops[i]? = some .finished ∨ s.loops[i]? = some .stored

instance (s : Sys) : Decidable s.joinable :=
  match h : s.serviceThread with
  | none => isTrue fun i hi => by simp [h] at hi
  | some i =>
      if ended : s.loops[i]? = some .finished ∨ s.loops[i]? = some .stored then
        isTrue fun j hj => by
          cases h.symm.trans hj
          exact ended
      else isFalse fun all => ended (all i h)

/-- The next step of the controlling thread; none where it blocks or the process ends. -/
def Sys.ctrl (config : InfrastructureConfig) (w : World) (s : Sys) : Option Sys :=
  match s.phase with
  | .idle => none
  | .coreTest => some (if s.coreRunning then s.complete else { s with phase := .newManager })
  | .newManager =>
      if Core.survivesDestructor w.shutdown s.clientManager then
        some { s with clientManager := some (.new config), phase := .fillManager }
      else none
  | .fillManager =>
      match s.clientManager with
      | none => none
      | some m =>
          match m.initializeServices w.net with
          | (.ok (), m) => some { s with clientManager := some m, phase := .coreRaise }
          | (.error _, m) => some { s with clientManager := some m, phase := .cleanup }
  | .cleanup =>
      some (Sys.complete
        { s with clientManager := s.clientManager.map fun m => (m.shutdown w.shutdown).2 })
  | .coreRaise => some { s with coreRunning := true, phase := .handlerRaise }
  | .handlerRaise => some { s with handlerRunning := true, phase := .build }
  | .build => some (s.build w)
  | .buildTest selectedPort =>
      if s.transport.server.isNone ∨ selectedPort = 0 then some { s with phase := .handlerTest }
      else some { s with phase := .transportRaise }
  | .transportRaise =>
      some { s with transport := { s.transport with isRunning := true }, phase := .apiRaise }
  | .apiRaise => some { s with isRunning := true, phase := .spawn }
  | .spawn => some { s with loops := s.loops ++ [.spawned], phase := .join s.loops.length }
  | .join loop =>
      if s.joinable then
        some { s with
          serviceThread := some loop, phase := .idle,
          started := s.transport.server.map fun server => (loop, server) }
      else none
  | .apiTest => some (if s.isRunning then { s with phase := .apiLower } else s.complete)
  | .apiLower => some { s with isRunning := false, phase := .transportTest }
  | .transportTest =>
      some { s with phase := if s.transport.isRunning then .serverTest else .handlerTest }
  | .serverTest =>
      some { s with phase := if s.transport.server.isSome then .shutdownCall else .transportLower }
  | .shutdownCall =>
      some { s with shut := s.transport.server.toList ++ s.shut, phase := .shutdownReturn }
  | .shutdownReturn => if s.Serves then none else some { s with phase := .serverReset }
  | .serverReset =>
      some { s with transport := { s.transport with server := none }, phase := .transportLower }
  | .transportLower =>
      some { s with transport := { s.transport with isRunning := false }, phase := .handlerTest }
  | .handlerTest => some (if s.handlerRunning then { s with phase := .handlerLower } else s.complete)
  | .handlerLower => some { s with handlerRunning := false, phase := .coreStopTest }
  | .coreStopTest => some (if s.coreRunning then { s with phase := .clear } else s.complete)
  | .clear =>
      match s.clientManager with
      | none => some { s with phase := .coreLower }
      | some m =>
          match m.shutdown w.shutdown with
          | (.ok (), m) => some { s with clientManager := some m, phase := .managerReset }
          | (.error _, m) => some (Sys.complete { s with clientManager := some m })
  | .managerReset =>
      if Core.survivesDestructor w.shutdown s.clientManager then
        some { s with clientManager := none, phase := .coreLower }
      else none
  | .coreLower => some (Sys.complete { s with coreRunning := false })

/-- The next step of a run loop, and the controller's flag after it. -/
def Loop.next (s : Sys) : Loop → Option (Loop × Bool)
  | .spawned => some (if s.transport.server.isNone then .failed else .tested, s.isRunning)
  | .tested =>
      match s.transport.server with
      | none => some (.faulted, s.isRunning)
      | some server => some (.waiting server, s.isRunning)
  | .waiting server => if server ∈ s.shut then some (.finished, s.isRunning) else none
  | .failed => some (.stored, false)
  | .finished | .stored | .faulted => none

/-- The next stage of an RPC. -/
def Rpc.next (s : Sys) (r : Rpc) : Option Stage :=
  match r.stage with
  | .accepted => some (if s.handlerRunning then .handlerTested else .finished .notRunning)
  | .handlerTested => some (if s.coreRunning then .coreTested else .finished .notInitialized)
  | .coreTested =>
      match s.clientManager with
      | none => some (.finished .crashed)
      | some m =>
          match m.find r.cameraId r.service with
          | .error _ => some (.finished .notConfigured)
          | .ok none => some (.finished .unavailable)
          | .ok (some client) => some (.holding client)
  | .holding _ => some (.finished .called)
  | .finished _ => none

inductive Label where
  | startAsync
  | stop
  | ctrl (w : World)
  | loop (i : Nat)
  | accept (server : Server) (service : Service) (cameraId : UInt32)
  | rpc (i : Nat)

def Label.Bound : Label → Prop
  | .ctrl w => w.Bound
  | .startAsync | .stop | .loop _ | .accept _ _ _ | .rpc _ => True

instance : (l : Label) → Decidable l.Bound
  | .ctrl w => inferInstanceAs (Decidable w.Bound)
  | .startAsync | .stop | .loop _ | .accept _ _ _ | .rpc _ => isTrue trivial

def machine (config : InfrastructureConfig) : Machine Sys Label where
  init := .init
  step
    | .startAsync, s => if s.phase = .idle then some { s with phase := .coreTest } else none
    | .stop, s => if s.phase = .idle then some { s with phase := .apiTest } else none
    | .ctrl w, s => s.ctrl config w
    | .loop i, s => do
        let l ← s.loops[i]?
        let (l, isRunning) ← l.next s
        return { s with loops := s.loops.set i l, isRunning }
    | .accept server service cameraId, s =>
        if s.Accepts server then
          some { s with rpcs := s.rpcs ++ [⟨server, service, cameraId, .accepted⟩] }
        else none
    | .rpc i, s => do
        let r ← s.rpcs[i]?
        let stage ← r.next s
        return { s with rpcs := s.rpcs.set i { r with stage } }

/-- What each label does to the state. -/
theorem step_cases {config : InfrastructureConfig} {l : Label} {s s' : Sys}
    (ran : (machine config).step l s = some s') :
    match l with
    | .startAsync => s.phase = .idle ∧ s' = { s with phase := .coreTest }
    | .stop => s.phase = .idle ∧ s' = { s with phase := .apiTest }
    | .ctrl w => s.ctrl config w = some s'
    | .loop i => ∃ l l' isRunning, s.loops[i]? = some l ∧ l.next s = some (l', isRunning) ∧
        s' = { s with loops := s.loops.set i l', isRunning }
    | .accept server service cameraId => s.Accepts server ∧
        s' = { s with rpcs := s.rpcs ++ [⟨server, service, cameraId, .accepted⟩] }
    | .rpc i => ∃ r stage, s.rpcs[i]? = some r ∧ r.next s = some stage ∧
        s' = { s with rpcs := s.rpcs.set i { r with stage } } := by
  cases l with
  | startAsync =>
      simp only [machine] at ran
      split at ran
      · rename_i idle
        exact ⟨idle, (Option.some.inj ran).symm⟩
      · cases ran
  | stop =>
      simp only [machine] at ran
      split at ran
      · rename_i idle
        exact ⟨idle, (Option.some.inj ran).symm⟩
      · cases ran
  | ctrl w => exact ran
  | loop i =>
      simp only [machine, Option.bind_eq_bind, Option.bind_eq_some_iff, Option.pure_def,
        Option.some.injEq] at ran
      obtain ⟨l, at_, ⟨l', isRunning⟩, next, rfl⟩ := ran
      exact ⟨l, l', isRunning, at_, next, rfl⟩
  | accept server service cameraId =>
      simp only [machine] at ran
      split at ran
      · rename_i accepted
        exact ⟨accepted, (Option.some.inj ran).symm⟩
      · cases ran
  | rpc i =>
      simp only [machine, Option.bind_eq_bind, Option.bind_eq_some_iff, Option.pure_def,
        Option.some.injEq] at ran
      obtain ⟨r, at_, stage, next, rfl⟩ := ran
      exact ⟨r, stage, at_, next, rfl⟩

end SensorCore.Threads
