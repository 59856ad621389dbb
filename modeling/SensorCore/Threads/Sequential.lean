import SensorCore.Threads.Atomic

/-!
The sequential model as runs of the machine.

`Api.Stack` takes a call as one step. Here each of its calls is a run of the machine in
which only the controlling thread moves: `startAsync_alone` and `stop_alone` lead from a
state that holds the stack before the call to one that holds the stack after it. The calls
of the layers are put together from those of the layers below, in the order in which the
methods call each other.

`calls_realized` is the converse of `calls_atomic`: a run of the sequential model in which
no run loop fails is one of the threads, with the same calls in the same order. The run
loop that a stop leaves over takes its steps right after it (`leftover_alone`), when the
flag that it lowers is down. The machine numbers its servers as it builds them, so the
stacks are the same up to the number of the server (`numbered`).
-/

namespace SensorCore.Threads

open SensorCore.Lib SensorCore.Config SensorCore.Clients SensorCore.Api

/-- The controlling thread gets from one state to the other on its own. -/
def Alone (config : InfrastructureConfig) (s s' : Sys) : Prop :=
  ∃ ws : List World, (∀ w ∈ ws, w.Bound) ∧ (machine config).exec (ws.map Label.ctrl) s = some s'

/-- A run with these calls leads from one state to the other. -/
def Schedules (config : InfrastructureConfig) (commands : List Command) (s s' : Sys) : Prop :=
  ∃ run : List Label, (∀ l ∈ run, l.Bound) ∧ (machine config).exec run s = some s' ∧
    run.filterMap Label.command = commands

/-- The other threads are as they were. -/
structure Undisturbed (s s' : Sys) : Prop where
  loops : s'.loops = s.loops
  serviceThread : s'.serviceThread = s.serviceThread
  rpcs : s'.rpcs = s.rpcs

/-- The other threads are as they were, but for a new service thread. -/
structure Spawned (s s' : Sys) : Prop where
  loops : s'.loops = s.loops ++ [.spawned]
  serviceThread : s'.serviceThread = some s.loops.length
  rpcs : s'.rpcs = s.rpcs

section Alone

variable {config : InfrastructureConfig} {s s' s'' : Sys}

theorem Undisturbed.refl (s : Sys) : Undisturbed s s := ⟨rfl, rfl, rfl⟩

theorem Alone.refl : Alone config s s := ⟨[], by simp, rfl⟩

theorem Alone.step {w : World} (bound : w.Bound) (taken : s.ctrl config w = some s')
    (rest : Alone config s' s'') : Alone config s s'' := by
  obtain ⟨ws, bounds, ran⟩ := rest
  refine ⟨w :: ws, List.forall_mem_cons.mpr ⟨bound, bounds⟩, ?_⟩
  rw [List.map_cons, Machine.exec_cons]
  have first : (machine config).step (.ctrl w) s = some s' := taken
  rw [first, Option.bind_some, ran]

/-- A step in which nothing goes wrong. -/
theorem Alone.fine (taken : s.ctrl config .fine = some s') (rest : Alone config s' s'') :
    Alone config s s'' :=
  .step (by decide) taken rest

/-- A step in which no server is built. -/
theorem Alone.unbuilt (shutdown : ShutdownOutcome) (net : Connect)
    (taken : s.ctrl config ⟨shutdown, net, false, 0⟩ = some s') (rest : Alone config s' s'') :
    Alone config s s'' :=
  .step (fun built => absurd built (by simp)) taken rest

theorem Alone.trans (first : Alone config s s') (rest : Alone config s' s'') :
    Alone config s s'' := by
  obtain ⟨ws, bounds, ran⟩ := first
  obtain ⟨ws', bounds', ran'⟩ := rest
  refine ⟨ws ++ ws', List.forall_mem_append.mpr ⟨bounds, bounds'⟩, ?_⟩
  rw [List.map_append, Machine.exec_append, ran, Option.bind_some, ran']

variable {commands commands' : List Command}

theorem Schedules.refl : Schedules config [] s s := ⟨[], by simp, rfl, rfl⟩

theorem Schedules.step {l : Label} (bound : l.Bound) (taken : (machine config).step l s = some s')
    (rest : Schedules config commands s' s'') :
    Schedules config (l.command.toList ++ commands) s s'' := by
  obtain ⟨run, bounds, ran, rfl⟩ := rest
  refine ⟨l :: run, List.forall_mem_cons.mpr ⟨bound, bounds⟩, ?_, ?_⟩
  · rw [Machine.exec_cons, taken, Option.bind_some, ran]
  · cases h : l.command <;> simp [h]

theorem Schedules.trans (first : Schedules config commands s s')
    (rest : Schedules config commands' s' s'') :
    Schedules config (commands ++ commands') s s'' := by
  obtain ⟨run, bounds, ran, rfl⟩ := first
  obtain ⟨run', bounds', ran', rfl⟩ := rest
  refine ⟨run ++ run', List.forall_mem_append.mpr ⟨bounds, bounds'⟩, ?_, List.filterMap_append⟩
  rw [Machine.exec_append, ran, Option.bind_some, ran']

theorem Alone.schedules (alone : Alone config s s') : Schedules config [] s s' := by
  obtain ⟨ws, bounds, ran⟩ := alone
  refine ⟨ws.map Label.ctrl, ?_, ran, ?_⟩
  · rw [List.forall_mem_map]
    exact bounds
  · rw [List.filterMap_map, List.filterMap_eq_nil_iff]
    intro w _
    rfl

end Alone

/-- Of the stack the shared state has its flags, its core and its transport. -/
theorem Sys.load_congr {s : Sys} {t t' : Stack} (flag : t.isRunning = t'.isRunning)
    (handler : t.requestHandler = t'.requestHandler) (transport : t.transport = t'.transport)
    (phase : Phase) : s.load t phase = s.load t' phase := by
  rw [Sys.load, Sys.load, flag, handler, transport]

section Core

variable {config : InfrastructureConfig} {s : Sys} {h : RequestHandler Core} {t : GrpcTransport}
  {address : String} {flag : Bool}

/-- The part of `Core::start` after its test: a new manager, filled or cleaned up. -/
theorem manager_alone {discard cleanup : ShutdownOutcome} {net : Connect} {r : Result Unit}
    {m : GrpcClientManager} (survives : Core.survivesDestructor discard s.clientManager = true)
    (at_ : s.phase = .newManager)
    (filled : GrpcClientManager.initializeClients net cleanup (.new config) = (r, m)) :
    Alone config s (match r with
      | .ok () => { s with clientManager := some m, phase := .coreRaise }
      | .error _ => Sys.complete { s with clientManager := some m }) := by
  have replaced : s.ctrl config ⟨discard, net, false, 0⟩ =
      some { s with clientManager := some (.new config), phase := .fillManager } := by
    simp [Sys.ctrl, at_, survives]
  refine .unbuilt discard net replaced ?_
  unfold GrpcClientManager.initializeClients at filled
  split at filled
  · rename_i m' services
    cases filled
    refine .unbuilt discard net ?_ .refl
    simp [Sys.ctrl, services]
  · rename_i what partly services
    have failed : Sys.ctrl config ⟨discard, net, false, 0⟩
        { s with clientManager := some (.new config), phase := .fillManager } =
        some { s with clientManager := some partly, phase := .cleanup } := by
      simp [Sys.ctrl, services]
    refine .unbuilt discard net failed ?_
    split at filled <;> rename_i cleaned <;> cases filled <;>
      exact .unbuilt cleanup net (by simp [Sys.ctrl, cleaned, Sys.complete]) .refl

/-- `Core::start`, up to its return. -/
theorem core_start_alone {o : Core.StartOutcome} {r : Result Unit} {c : Core}
    (same : h.core.infrastructureConfig = config) (ran : h.core.start o = some (r, c)) :
    Alone config (s.load ⟨h, t, address, flag⟩ .coreTest) (match r with
      | .ok () => s.load ⟨{ h with core := c }, t, address, flag⟩ .handlerRaise
      | .error _ => (s.load ⟨{ h with core := c }, t, address, flag⟩ .idle).complete) := by
  subst same
  unfold Core.start at ran
  split at ran
  · rename_i running
    cases ran
    refine .fine ?_ .refl
    simp [Sys.ctrl, Sys.load, running, Sys.complete]
  · rename_i stopped
    have tested : Sys.ctrl h.core.infrastructureConfig .fine
        (s.load ⟨h, t, address, flag⟩ .coreTest) =
        some (s.load ⟨h, t, address, flag⟩ .newManager) := by
      simp [Sys.ctrl, Sys.load, stopped]
    refine .fine tested ?_
    split at ran
    · rename_i survives
      have manager := @manager_alone h.core.infrastructureConfig
        (s.load ⟨h, t, address, flag⟩ .newManager) o.discard o.cleanup o.net
      split at ran
      · rename_i m filled
        cases ran
        refine (manager survives rfl filled).trans (.fine ?_ .refl)
        rfl
      · rename_i what m failed
        cases ran
        have running : h.core.isRunning = false := Bool.eq_false_iff.mpr stopped
        have done := manager survives rfl failed
        simp only [Sys.load, Sys.complete, running] at done ⊢
        exact done
    · cases ran

/-- `Core::stop`, up to its return. -/
theorem core_stop_alone {o : Core.StopOutcome} {r : Result Unit} {c : Core}
    (ran : h.core.stop o = some (r, c)) :
    Alone config (s.load ⟨h, t, address, flag⟩ .coreStopTest)
      (s.load ⟨{ h with core := c }, t, address, flag⟩ .idle).complete := by
  unfold Core.stop at ran
  split at ran
  · rename_i running
    have tested : Sys.ctrl config .fine (s.load ⟨h, t, address, flag⟩ .coreStopTest) =
        some (s.load ⟨h, t, address, flag⟩ .clear) := by
      simp [Sys.ctrl, Sys.load, running]
    refine .fine tested ?_
    split at ran
    · rename_i unmanaged
      have managed := h.core.managed running
      rw [unmanaged] at managed
      cases managed
    · rename_i m managed
      split at ran
      · rename_i what m' thrown
        cases ran
        refine .unbuilt o.shutdown .all ?_ .refl
        simp [Sys.ctrl, Sys.load, managed, thrown, Sys.complete]
      · rename_i m' closed
        have cleared : Sys.ctrl config ⟨o.shutdown, .all, false, 0⟩
            (s.load ⟨h, t, address, flag⟩ .clear) =
            some { s.load ⟨h, t, address, flag⟩ .managerReset with clientManager := some m' } := by
          simp [Sys.ctrl, Sys.load, managed, closed]
        refine .unbuilt o.shutdown .all cleared ?_
        split at ran
        · rename_i survives
          cases ran
          have dropped : Sys.ctrl config ⟨o.discard, .all, false, 0⟩
              { s.load ⟨h, t, address, flag⟩ .managerReset with clientManager := some m' } =
              some { s.load ⟨h, t, address, flag⟩ .coreLower with clientManager := none } := by
            simp [Sys.ctrl, Sys.load, survives]
          refine .unbuilt o.discard .all dropped (.fine ?_ .refl)
          rfl
        · cases ran
  · rename_i stopped
    cases ran
    refine .fine ?_ .refl
    simp [Sys.ctrl, Sys.load, stopped, Sys.complete]

/-- `RequestHandler::stop`, up to its return. -/
theorem handler_stop_alone {o : Core.StopOutcome} {r : Result Unit} {h' : RequestHandler Core}
    (ran : h.stop coreLifecycle o = some (r, h')) :
    Alone config (s.load ⟨h, t, address, flag⟩ .handlerTest)
      (s.load ⟨h', t, address, flag⟩ .idle).complete := by
  rcases RequestHandler.stop_cases ran with ⟨idle, -, rfl⟩ | ⟨running, idle, outcome⟩
  · refine .fine ?_ .refl
    simp [Sys.ctrl, Sys.load, idle, Sys.complete]
  · have tested : Sys.ctrl config .fine (s.load ⟨h, t, address, flag⟩ .handlerTest) =
        some (s.load ⟨h, t, address, flag⟩ .handlerLower) := by
      simp [Sys.ctrl, Sys.load, running]
    have lowered : Sys.ctrl config .fine (s.load ⟨h, t, address, flag⟩ .handlerLower) =
        some (s.load ⟨{ h with isRunning := false }, t, address, flag⟩ .coreStopTest) := rfl
    refine .fine tested (.fine lowered ?_)
    have stopped : h' = { h with isRunning := false, core := h'.core } := by rw [← idle]
    rw [stopped]
    rcases outcome with ⟨-, core⟩ | ⟨e, -, core⟩
    · exact core_stop_alone (h := { h with isRunning := false }) core
    · exact core_stop_alone (h := { h with isRunning := false }) core

/-- `GrpcTransport::stop`, when no RPC is in flight. -/
theorem transport_stop_alone (quiet : ∀ r ∈ s.rpcs, ¬ r.InFlight) :
    ∃ s' : Sys, Undisturbed s s' ∧ Alone config (s.load ⟨h, t, address, flag⟩ .transportTest)
      (s'.load ⟨h, (GrpcTransport.stop t).2, address, flag⟩ .handlerTest) := by
  cases running : t.isRunning with
  | false =>
      rw [GrpcTransport.stop_stopped running]
      refine ⟨s, .refl s, .fine ?_ .refl⟩
      simp [Sys.ctrl, Sys.load, running]
  | true =>
      rw [GrpcTransport.stop_running running]
      have tested : Sys.ctrl config .fine (s.load ⟨h, t, address, flag⟩ .transportTest) =
          some (s.load ⟨h, t, address, flag⟩ .serverTest) := by
        simp [Sys.ctrl, Sys.load, running]
      cases live : t.server with
      | none =>
          have skipped : Sys.ctrl config .fine (s.load ⟨h, t, address, flag⟩ .serverTest) =
              some (s.load ⟨h, t, address, flag⟩ .transportLower) := by
            simp [Sys.ctrl, Sys.load, live]
          refine ⟨s, .refl s, .fine tested (.fine skipped (.fine ?_ .refl))⟩
          simp [Sys.ctrl, Sys.load, live, GrpcTransport.new]
      | some server =>
          have seen : Sys.ctrl config .fine (s.load ⟨h, t, address, flag⟩ .serverTest) =
              some (s.load ⟨h, t, address, flag⟩ .shutdownCall) := by
            simp [Sys.ctrl, Sys.load, live]
          let s' : Sys := { s with shut := t.server.toList ++ s.shut }
          have called : Sys.ctrl config .fine (s.load ⟨h, t, address, flag⟩ .shutdownCall) =
              some (s'.load ⟨h, t, address, flag⟩ .shutdownReturn) := rfl
          have empty : ¬ (s'.load ⟨h, t, address, flag⟩ .shutdownReturn).Serves := by
            rintro ⟨r, mem, flying, -⟩
            exact quiet r mem flying
          have returned : Sys.ctrl config .fine (s'.load ⟨h, t, address, flag⟩ .shutdownReturn) =
              some (s'.load ⟨h, t, address, flag⟩ .serverReset) := if_neg empty
          refine ⟨s', ⟨rfl, rfl, rfl⟩, .fine tested (.fine seen (.fine called (.fine returned
            (.fine rfl (.fine ?_ .refl)))))⟩
          rfl

/-- `BuildAndStart` and the assignment of what it returns. -/
theorem build_alone {b : Build} (bound : b.Bound)
    (fresh : ∀ server, b.server = some server → server = s.nextServer) :
    ∃ s' : Sys, Undisturbed s s' ∧ Alone config (s.load ⟨h, t, address, flag⟩ .build)
      (s'.load ⟨h, { t with server := b.server }, address, flag⟩ (.buildTest b.selectedPort)) := by
  let w : World := ⟨.quiet, .all, b.server.isSome, b.selectedPort⟩
  have ported : w.Bound := bound
  have built : (if b.server.isSome = true then some s.nextServer else none) = b.server := by
    cases server : b.server with
    | none => rfl
    | some n => rw [fresh n server]; rfl
  refine ⟨{ s with
    nextServer := s.nextServer + 1
    bound := if b.server.isSome ∧ b.selectedPort ≠ 0 then s.nextServer :: s.bound else s.bound
    shut := t.server.toList ++ s.shut }, ⟨rfl, rfl, rfl⟩, .step ported ?_ .refl⟩
  simp only [Sys.ctrl, Sys.load, Sys.build, w, built]

/-- `GrpcTransport::start` that fails. -/
theorem transport_start_error_alone {b : Build} {t' : GrpcTransport} {e : String} (bound : b.Bound)
    (fresh : ∀ server, b.server = some server → server = s.nextServer)
    (failed : GrpcTransport.start address b t = (.error e, t')) :
    ∃ s' : Sys, Undisturbed s s' ∧ Alone config (s.load ⟨h, t, address, flag⟩ .build)
      (s'.load ⟨h, t', address, flag⟩ .handlerTest) := by
  obtain ⟨s', same, built⟩ := @build_alone config s h t address flag b bound fresh
  refine ⟨s', same, built.trans (.fine ?_ .refl)⟩
  unfold GrpcTransport.start at failed
  dsimp only at failed
  split at failed
  · rename_i closed
    cases failed
    exact if_pos closed
  · cases failed

/-- `GrpcTransport::start` that succeeds, and the rest of `startAsync`. -/
theorem transport_start_ok_alone {b : Build} {t' : GrpcTransport} (bound : b.Bound)
    (fresh : ∀ server, b.server = some server → server = s.nextServer) (joinable : s.joinable)
    (opened : GrpcTransport.start address b t = (.ok (), t')) :
    ∃ s' : Sys, Spawned s s' ∧ Alone config (s.load ⟨h, t, address, flag⟩ .build)
      (s'.load ⟨h, t', address, true⟩ .idle) := by
  obtain ⟨s', same, built⟩ := @build_alone config s h t address flag b bound fresh
  unfold GrpcTransport.start at opened
  dsimp only at opened
  split at opened
  · cases opened
  · rename_i live
    cases opened
    let t₁ : GrpcTransport := { t with server := b.server }
    let t₂ : GrpcTransport := { t₁ with isRunning := true }
    let s₂ : Sys := { s' with loops := s'.loops ++ [.spawned] }
    have tested : Sys.ctrl config .fine (s'.load ⟨h, t₁, address, flag⟩ (.buildTest b.selectedPort)) =
        some (s'.load ⟨h, t₁, address, flag⟩ .transportRaise) := if_neg live
    have raised : Sys.ctrl config .fine (s'.load ⟨h, t₁, address, flag⟩ .transportRaise) =
        some (s'.load ⟨h, t₂, address, flag⟩ .apiRaise) := rfl
    have running : Sys.ctrl config .fine (s'.load ⟨h, t₂, address, flag⟩ .apiRaise) =
        some (s'.load ⟨h, t₂, address, true⟩ .spawn) := rfl
    have spawned : Sys.ctrl config .fine (s'.load ⟨h, t₂, address, true⟩ .spawn) =
        some (s₂.load ⟨h, t₂, address, true⟩ (.join s'.loops.length)) := rfl
    have joined : (s₂.load ⟨h, t₂, address, true⟩ (.join s'.loops.length)).joinable := by
      intro i at_
      have old : s.serviceThread = some i := same.serviceThread ▸ at_
      have ended := joinable i old
      have bounded : i < s'.loops.length := by
        rw [same.loops]
        rcases ended with ended | ended <;> exact (List.getElem?_eq_some_iff.mp ended).1
      have kept : s₂.loops[i]? = s.loops[i]? := by
        rw [← same.loops]
        exact List.getElem?_append_left bounded
      exact kept ▸ ended
    refine ⟨{ s₂ with
      serviceThread := some s'.loops.length
      started := t₂.server.map fun server => (s'.loops.length, server) }, ⟨?_, ?_, same.rpcs⟩,
      built.trans (.fine tested (.fine raised (.fine running (.fine spawned
        (.fine ?_ .refl)))))⟩
    · exact congrArg (· ++ [Loop.spawned]) same.loops
    · exact congrArg (fun loops : List Loop => some loops.length) same.loops
    · exact if_pos joined

end Core

/-! ### The calls of the controller -/

variable {config : InfrastructureConfig} {s : Sys} {t t' : Stack} {r : Result Unit}

/-- A call that is made alone. -/
theorem Alone.called {l : Label} {s₁ s₂ : Sys} (bound : l.Bound)
    (called : (machine config).step l s = some s₁) (alone : Alone config s₁ s₂) :
    Schedules config l.command.toList s s₂ := by
  have run := Schedules.step bound called alone.schedules
  rw [List.append_nil] at run
  exact run

/-- `ApiController::stop`, when no RPC is in flight. -/
theorem stop_alone {o : StopOutcome Unit Core.StopOutcome}
    (quiet : ∀ r ∈ s.rpcs, ¬ r.InFlight)
    (ran : t.stop GrpcTransport.lifecycle coreLifecycle o = some (r, t')) :
    ∃ s' : Sys, Undisturbed s s' ∧ Schedules config [.stop] (s.load t .idle) (s'.load t' .idle) := by
  have called : (machine config).step .stop (s.load t .idle) = some (s.load t .apiTest) := rfl
  suffices ∃ s' : Sys, Undisturbed s s' ∧ Alone config (s.load t .apiTest) (s'.load t' .idle) by
    obtain ⟨s', same, alone⟩ := this
    exact ⟨s', same, alone.called (l := .stop) trivial called⟩
  obtain ⟨h, transport, address, flag⟩ := t
  rcases ApiController.stop_cases ran with ⟨down, -, rfl⟩ | ⟨running, lowered, outcome⟩
  · refine ⟨{ s with started := none }, ⟨rfl, rfl, rfl⟩, .fine ?_ .refl⟩
    simp only at down
    subst down
    rfl
  · simp only at running
    subst running
    have tested : Sys.ctrl config .fine (s.load ⟨h, transport, address, true⟩ .apiTest) =
        some (s.load ⟨h, transport, address, true⟩ .apiLower) := rfl
    have lower : Sys.ctrl config .fine (s.load ⟨h, transport, address, true⟩ .apiLower) =
        some (s.load ⟨h, transport, address, false⟩ .transportTest) := rfl
    obtain ⟨s₁, same, closed⟩ := @transport_stop_alone config s h transport address false quiet
    have fine := @transport_stop_ok transport
    rcases outcome with ⟨e, failed, -, -⟩ | ⟨stopped, outcome⟩
    · have failed := Option.some.inj failed
      simp only at failed
      rw [failed] at fine
      cases fine
    · have after : transport.stop.2 = t'.transport := by
        rw [show transport.stop = (.ok (), t'.transport) from Option.some.inj stopped]
      refine ⟨{ s₁ with started := none }, ⟨same.loops, same.serviceThread, same.rpcs⟩,
        .fine tested (.fine lower (closed.trans ?_))⟩
      have done : ∀ r', h.stop coreLifecycle o.core = some (r', t'.requestHandler) →
          Alone config (s₁.load ⟨h, transport.stop.2, address, false⟩ .handlerTest)
            (Sys.load { s₁ with started := none } t' .idle) := by
        intro r' ran
        have handler := @handler_stop_alone config s₁ h transport.stop.2 address false _ _ _ ran
        have same : s₁.load ⟨t'.requestHandler, transport.stop.2, address, false⟩ .idle =
            s₁.load t' .idle := by
          refine Sys.load_congr ?_ ?_ ?_ .idle
          · exact lowered.symm
          · rfl
          · exact after
        rw [same] at handler
        exact handler
      rcases outcome with ⟨e, core, -⟩ | ⟨core, -⟩
      · exact done _ core
      · exact done _ core

/-- `ApiController::startAsync`, when the run loop of an earlier start has ended by the time
of a new one, and none ends during the call. -/
theorem startAsync_alone {o : StartOutcome Core.StartOutcome Build Core.StopOutcome}
    (same : t.requestHandler.core.infrastructureConfig = config) (early : o.early = [])
    (bound : o.transport.Bound)
    (fresh : ∀ server, o.transport.server = some server → server = s.nextServer)
    (joinable : t.requestHandler.core.isRunning = false → s.joinable)
    (ran : t.startAsync GrpcTransport.lifecycle coreLifecycle o = some (r, t')) :
    ∃ s' : Sys, (r = .ok () ∧ Spawned s s' ∨ (∃ e, r = .error e) ∧ Undisturbed s s') ∧
      Schedules config [.startAsync] (s.load t .idle) (s'.load t' .idle) := by
  have called : (machine config).step .startAsync (s.load t .idle) = some (s.load t .coreTest) :=
    rfl
  suffices ∃ s' : Sys, (r = .ok () ∧ Spawned s s' ∨ (∃ e, r = .error e) ∧ Undisturbed s s') ∧
      Alone config (s.load t .coreTest) (s'.load t' .idle) by
    obtain ⟨s', outcome, alone⟩ := this
    exact ⟨s', outcome, alone.called (l := .startAsync) trivial called⟩
  obtain ⟨h, transport, address, flag⟩ := t
  rcases ApiController.startAsync_cases ran with ⟨e, h', failed, rfl, rfl⟩ | ⟨h', started, outcome⟩
  · obtain ⟨core, ⟨failed, -⟩ | ⟨-, still⟩⟩ := RequestHandler.start_cases failed
    · cases failed
    · have start := @core_start_alone config s h transport address flag _ _ _ same core
      have handler : h' = { h with core := h'.core } := by rw [← still]
      rw [handler]
      exact ⟨{ s with started := none }, .inr ⟨⟨e, rfl⟩, rfl, rfl, rfl⟩, start⟩
  · obtain ⟨core, ⟨-, up⟩ | ⟨⟨_, failed⟩, -⟩⟩ := RequestHandler.start_cases started
    · have start := @core_start_alone config s h transport address flag _ _ _ same core
      have down : h.core.isRunning = false := (Core.start_ok core).1
      have handler : h' = { core := h'.core, isRunning := true } := by rw [← up]
      have raised : Sys.ctrl config .fine
          (s.load ⟨{ h with core := h'.core }, transport, address, flag⟩ .handlerRaise) =
          some (s.load ⟨h', transport, address, flag⟩ .build) := by
        rw [handler]
        rfl
      have built := start.trans (.fine raised .refl)
      rcases outcome with ⟨e, transport', r', h'', failed, rolledBack, wrong, rfl⟩ |
        ⟨transport', opened, rfl, rfl⟩
      · obtain ⟨s', still, closed⟩ := @transport_start_error_alone config s h' transport address flag
          _ _ _ bound fresh (Option.some.inj failed)
        exact ⟨{ s' with started := none },
          .inr ⟨wrong, still.loops, still.serviceThread, still.rpcs⟩,
          built.trans (closed.trans (handler_stop_alone rolledBack))⟩
      · rw [early]
        obtain ⟨s', spawned, up⟩ := @transport_start_ok_alone config s h' transport address flag _ _
          bound fresh (joinable down) (Option.some.inj opened)
        exact ⟨s', .inl ⟨rfl, spawned⟩, built.trans up⟩
    · cases failed

/-- A run loop that ends with an error, in the two steps of its thread. -/
theorem runLoopEnds_alone {i : Nat} {e : String} (at_ : s.loops[i]? = some .spawned)
    (failed : t.transport.runLoop = .error e) :
    Schedules config [] (s.load t .idle)
      (Sys.load { s with loops := s.loops.set i .stored } (t.runLoopEnds (.error e)) .idle) := by
  have bounded : i < s.loops.length := (List.getElem?_eq_some_iff.mp at_).1
  have gone : t.transport.server = none := by
    unfold GrpcTransport.runLoop at failed
    split at failed
    · rename_i none
      exact Option.isNone_iff_eq_none.mp none
    · cases failed
  let s₁ : Sys := { s with loops := s.loops.set i .failed }
  have looked : (machine config).step (.loop i) (s.load t .idle) = some (s₁.load t .idle) := by
    simp [machine, Sys.load, s₁, at_, Loop.next, gone]
  have at₁ : s₁.loops[i]? = some .failed := List.getElem?_set_self bounded
  have stored : (machine config).step (.loop i) (s₁.load t .idle) = some
      (Sys.load { s₁ with loops := s₁.loops.set i .stored } (t.runLoopEnds (.error e)) .idle) := by
    simp [machine, Sys.load, at₁, Loop.next, ApiController.runLoopEnds]
  have same : s₁.loops.set i .stored = s.loops.set i .stored := List.set_set ..
  rw [same] at stored
  exact .step (l := .loop i) trivial looked (.step (l := .loop i) trivial stored .refl)

/-- The run loop that a stop has left over: it finds no server, and lowers a flag that is
down. -/
theorem leftover_alone {i : Nat} (at_ : s.loops[i]? = some .spawned)
    (gone : t.transport.server = none) (down : t.isRunning = false) :
    Schedules config [] (s.load t .idle)
      (Sys.load { s with loops := s.loops.set i .stored } t .idle) := by
  have failed : t.transport.runLoop = .error "Server isn't initialized" := by
    rw [GrpcTransport.runLoop, gone]
    rfl
  have lowered : t.runLoopEnds (.error "Server isn't initialized") = t := by
    rw [ApiController.runLoopEnds, ← down]
  have ended := @runLoopEnds_alone config s t i _ at_ failed
  rw [lowered] at ended
  exact ended

/-! ### The numbers of the servers -/

/-- The transport with another number for its server. -/
def renumber (n : Server) (t : GrpcTransport) : GrpcTransport :=
  { t with server := t.server.map fun _ => n }

/-- The stack with another number for its server. -/
def numbered (n : Server) (t : Stack) : Stack := { t with transport := renumber n t.transport }

def Build.numbered (n : Server) (b : Build) : Build := { b with server := b.server.map fun _ => n }

theorem transport_start_numbered (n m : Server) (address : String) (b : Build) (t : GrpcTransport) :
    GrpcTransport.start address (Build.numbered m b) (renumber n t) =
      ((GrpcTransport.start address b t).1, renumber m (GrpcTransport.start address b t).2) := by
  cases made : b.server <;> by_cases port : b.selectedPort = 0 <;>
    simp [GrpcTransport.start, Build.numbered, renumber, made, port]

theorem transport_stop_numbered (n : Server) (t : GrpcTransport) :
    GrpcTransport.stop (renumber n t) =
      ((GrpcTransport.stop t).1, renumber n (GrpcTransport.stop t).2) := by
  cases running : t.isRunning <;> simp [GrpcTransport.stop, renumber, running]

/-- A stop does not look at the number. -/
theorem stop_numbered {o : StopOutcome Unit Core.StopOutcome} (n : Server)
    (ran : t.stop GrpcTransport.lifecycle coreLifecycle o = some (r, t')) :
    (numbered n t).stop GrpcTransport.lifecycle coreLifecycle o = some (r, numbered n t') := by
  have fine := @transport_stop_ok t.transport
  have stops : GrpcTransport.lifecycle.stop o.transport t.transport =
      some (.ok (), t.transport.stop.2) := congrArg some (Prod.ext fine rfl)
  have stops' : GrpcTransport.lifecycle.stop o.transport (renumber n t.transport) =
      some (.ok (), renumber n t.transport.stop.2) := by
    refine congrArg some ?_
    rw [transport_stop_numbered, fine]
  unfold ApiController.stop at ran ⊢
  split at ran
  · rename_i running
    have running' : (numbered n t).isRunning = true := running
    rw [if_pos running']
    simp only [stops] at ran
    simp only [numbered, stops']
    split at ran
    · cases ran
    · cases ran
      rfl
    · cases ran
      rfl
  · rename_i down
    have down' : ¬ (numbered n t).isRunning = true := down
    rw [if_neg down']
    cases ran
    rfl

/-- Nor does a start; it keeps the number, or gives a new one. -/
theorem startAsync_numbered {o : StartOutcome Core.StartOutcome Build Core.StopOutcome}
    (fine : ∀ r ∈ o.early, r = .ok ()) (n m : Server)
    (ran : t.startAsync GrpcTransport.lifecycle coreLifecycle o = some (r, t')) :
    ∃ k, (numbered n t).startAsync GrpcTransport.lifecycle coreLifecycle
      { o with transport := Build.numbered m o.transport, early := [] } =
        some (r, numbered k t') := by
  unfold ApiController.startAsync at ran ⊢
  split at ran
  · cases ran
  · rename_i failed
    cases ran
    exact ⟨n, by simp only [numbered, failed]⟩
  · rename_i handler started
    refine ⟨m, ?_⟩
    rcases opened : t.transport.start t.serverAddress o.transport with ⟨outcome, transport⟩
    have starts : GrpcTransport.lifecycle.start t.serverAddress o.transport t.transport =
        some (outcome, transport) := congrArg some opened
    have starts' : GrpcTransport.lifecycle.start t.serverAddress (Build.numbered m o.transport)
        (renumber n t.transport) = some (outcome, renumber m transport) := by
      refine congrArg some ?_
      rw [transport_start_numbered, opened]
    simp only [starts] at ran
    simp only [numbered, started, starts']
    cases outcome with
    | error e =>
        simp only at ran ⊢
        split at ran <;> cases ran <;> rfl
    | ok u =>
        simp only [ApiController.early_ok fine] at ran
        cases ran
        rfl

/-! ### The runs of the sequential model -/

/-- No run loop fails in the event. -/
def NoFailure : Stack.StackEvent → Prop
  | .startAsync o => ∀ r ∈ o.early, r = .ok ()
  | .stop _ => True
  | .runLoopEnds r => r = .ok ()

/-- Between calls: no RPC is there, and the service thread has ended or, while there is a
server, not begun. -/
structure Rested (t : Stack) (s : Sys) : Prop where
  rpcs : s.rpcs = []
  ended : t.transport.server = none → s.joinable
  unbegun : t.transport.server.isSome = true → ∀ i, s.serviceThread = some i →
    s.loops[i]? = some .spawned

theorem Rested.quiet (rested : Rested t s) : ∀ r ∈ s.rpcs, ¬ r.InFlight := by
  rw [rested.rpcs]
  exact fun r mem => absurd mem List.not_mem_nil

/-- The other threads rest as long as the server is not replaced. -/
theorem Rested.congr {s' : Sys} (rested : Rested t s) (same : Undisturbed s s')
    (server : t'.transport.server = t.transport.server) : Rested t' s' := by
  refine ⟨same.rpcs.trans rested.rpcs, ?_, ?_⟩
  · intro gone i thread
    rw [same.loops]
    exact rested.ended (server.symm.trans gone) i (same.serviceThread ▸ thread)
  · intro live i thread
    rw [same.loops]
    exact rested.unbegun (server ▸ live) i (same.serviceThread ▸ thread)

/-- A start that fails leaves the server as it was. -/
theorem startAsync_error_server {e : String}
    {o : StartOutcome Core.StartOutcome Build Core.StopOutcome} (nested : t.Nested config)
    (bound : o.transport.Bound)
    (failed : t.startAsync GrpcTransport.lifecycle coreLifecycle o = some (.error e, t')) :
    t'.transport.server = t.transport.server := by
  rcases ApiController.startAsync_cases failed with ⟨e', handler, -, -, rfl⟩ |
    ⟨handler, started, tail⟩
  · rfl
  · have none := (nested.transport_down (nested.idle_of_start started).1).2
    rcases tail with ⟨e', transport, r', handler', unopened, -, -, rfl⟩ | ⟨transport, -, done, -⟩
    · exact (GrpcTransport.start_error bound (Option.some.inj unopened)).1.trans none.symm
    · cases done

/-- A start that succeeds leaves a server. -/
theorem startAsync_ok_server {o : StartOutcome Core.StartOutcome Build Core.StopOutcome}
    (done : t.startAsync GrpcTransport.lifecycle coreLifecycle o = some (.ok (), t')) :
    t'.transport.server.isSome = true := by
  rcases ApiController.startAsync_cases done with ⟨e, handler, -, failed, -⟩ | ⟨handler, -, tail⟩
  · cases failed
  · rcases tail with ⟨e, transport, r', handler', -, -, ⟨e', failed⟩, -⟩ | ⟨transport, opened, -, rfl⟩
    · cases failed
    · rw [(ApiController.early_frame _ _).2.1]
      exact (GrpcTransport.start_ok (Option.some.inj opened)).2.2

/-- A stop that finds the flag up leaves no server. -/
theorem stop_server {o : StopOutcome Unit Core.StopOutcome} (nested : t.Nested config)
    (running : t.isRunning = true)
    (ran : t.stop GrpcTransport.lifecycle coreLifecycle o = some (r, t')) :
    t'.transport.server = none := by
  have closes := GrpcTransport.stop_running (nested.controller running).1
  have stops : GrpcTransport.lifecycle.stop o.transport t.transport = some (.ok (), .new) :=
    congrArg some closes
  rcases ApiController.stop_cases ran with ⟨down, -⟩ | ⟨-, -, outcome⟩
  · rw [running] at down
    cases down
  · rw [stops] at outcome
    rcases outcome with ⟨e, failed, -⟩ | ⟨closed, -⟩
    · cases failed
    · rw [← (Prod.mk.inj (Option.some.inj closed)).2]
      rfl

/-- A start. -/
theorem startAsync_realized {o : StartOutcome Core.StartOutcome Build Core.StopOutcome} {n : Server}
    (nested : t.Nested config) (rested : Rested t s) (bound : o.transport.Bound)
    (fine : ∀ r ∈ o.early, r = .ok ())
    (ran : t.startAsync GrpcTransport.lifecycle coreLifecycle o = some (r, t')) :
    ∃ s' m, Rested t' s' ∧
      Schedules config [.startAsync] (s.load (numbered n t) .idle) (s'.load (numbered m t') .idle) := by
  obtain ⟨m, renumbered⟩ := startAsync_numbered fine n s.nextServer ran
  have joinable : t.requestHandler.core.isRunning = false → s.joinable := by
    intro down
    apply rested.ended
    refine (nested.transport_down ?_).2
    apply Bool.eq_false_iff.mpr
    intro running
    rw [(nested.handler running).1] at down
    cases down
  have ported : (Build.numbered s.nextServer o.transport).Bound := by
    simpa [Build.numbered, Build.Bound] using bound
  have fresh : ∀ server, (Build.numbered s.nextServer o.transport).server = some server →
      server = s.nextServer := by
    intro server made
    obtain ⟨_, -, rfl⟩ := Option.map_eq_some_iff.mp made
    rfl
  obtain ⟨s', outcome, run⟩ :=
    startAsync_alone (s := s) (t := numbered n t) nested.config rfl ported fresh joinable renumbered
  refine ⟨s', m, ?_, run⟩
  rcases outcome with ⟨rfl, spawned⟩ | ⟨⟨e, rfl⟩, same⟩
  · have live := startAsync_ok_server ran
    refine ⟨spawned.rpcs.trans rested.rpcs, fun gone => ?_, fun _ i thread => ?_⟩
    · rw [gone] at live
      cases live
    · obtain rfl := Option.some.inj (spawned.serviceThread.symm.trans thread)
      rw [spawned.loops]
      simp
  · exact rested.congr same (startAsync_error_server nested bound ran)

/-- A stop; the run loop that it leaves over ends after it. -/
theorem stop_realized {o : StopOutcome Unit Core.StopOutcome} {n : Server}
    (nested : t.Nested config) (rested : Rested t s)
    (ran : t.stop GrpcTransport.lifecycle coreLifecycle o = some (r, t')) :
    ∃ s', Rested t' s' ∧
      Schedules config [.stop] (s.load (numbered n t) .idle) (s'.load (numbered n t') .idle) := by
  obtain ⟨s₁, same, run⟩ : ∃ s₁, Undisturbed s s₁ ∧
      Schedules config [.stop] (s.load (numbered n t) .idle) (s₁.load (numbered n t') .idle) :=
    stop_alone rested.quiet (stop_numbered n ran)
  rcases ApiController.stop_cases ran with ⟨-, -, rfl⟩ | ⟨running, lowered, outcome⟩
  · exact ⟨s₁, rested.congr same rfl, run⟩
  · have live := (nested.controller running).2
    have gone := stop_server nested running ran
    cases thread : s.serviceThread with
    | none =>
        refine ⟨s₁, ⟨same.rpcs.trans rested.rpcs, fun _ i at_ => ?_, fun live => ?_⟩, run⟩
        · rw [same.serviceThread, thread] at at_
          cases at_
        · rw [gone] at live
          cases live
    | some i =>
        have at_ : s₁.loops[i]? = some .spawned := by
          rw [same.loops]
          exact rested.unbegun live i thread
        have bounded : i < s₁.loops.length := (List.getElem?_eq_some_iff.mp at_).1
        have gone' : (numbered n t').transport.server = none := by
          simp [numbered, renumber, gone]
        have rest : Schedules config [] (s₁.load (numbered n t') .idle)
            (Sys.load { s₁ with loops := s₁.loops.set i .stored } (numbered n t') .idle) :=
          leftover_alone at_ gone' lowered
        refine ⟨{ s₁ with loops := s₁.loops.set i .stored },
          ⟨same.rpcs.trans rested.rpcs, fun _ j held => ?_, fun live => ?_⟩, run.trans rest⟩
        · obtain rfl : i = j := by
            rw [← Option.some.injEq, ← thread, ← same.serviceThread]
            exact held
          exact .inr (List.getElem?_set_self bounded)
        · rw [gone] at live
          cases live

/-- An event. -/
theorem event_realized {address : String} {e : Stack.StackEvent} {n : Server}
    (nested : t.Nested config) (rested : Rested t s) (bound : Stack.BoundBuild e)
    (fine : NoFailure e) (ran : (Stack.machine config address).step e t = some t') :
    ∃ s' m, Rested t' s' ∧ Schedules config (commandOf e).toList (s.load (numbered n t) .idle)
      (s'.load (numbered m t') .idle) := by
  cases e with
  | startAsync o =>
      obtain ⟨⟨r, t'⟩, started, rfl⟩ := Option.map_eq_some_iff.mp ran
      exact startAsync_realized nested rested bound fine started
  | stop o =>
      obtain ⟨⟨r, t'⟩, stopped, rfl⟩ := Option.map_eq_some_iff.mp ran
      obtain ⟨s', rested', run⟩ := stop_realized (n := n) nested rested stopped
      exact ⟨s', n, rested', run⟩
  | runLoopEnds r =>
      obtain rfl : r = .ok () := fine
      cases ran
      exact ⟨s, n, rested, .refl⟩

/-- Events, one after the other. -/
theorem events_realized {address : String} {es : List Stack.StackEvent} {n : Server}
    (nested : t.Nested config) (rested : Rested t s) (bound : ∀ e ∈ es, Stack.BoundBuild e)
    (fine : ∀ e ∈ es, NoFailure e) (ran : (Stack.machine config address).exec es t = some t') :
    ∃ (s' : Sys) (m : Server), Schedules config (es.filterMap commandOf)
      (s.load (numbered n t) .idle) (s'.load (numbered m t') .idle) := by
  induction es generalizing s t n with
  | nil =>
      cases ran
      exact ⟨s, n, .refl⟩
  | cons e es ih =>
      obtain ⟨boundHere, boundLater⟩ := List.forall_mem_cons.mp bound
      obtain ⟨fineHere, fineLater⟩ := List.forall_mem_cons.mp fine
      obtain ⟨t₁, first, rest⟩ := Option.bind_eq_some_iff.mp ran
      obtain ⟨s₁, m, rested', run⟩ := event_realized (n := n) nested rested boundHere fineHere first
      obtain ⟨s', k, run'⟩ :=
        ih (n := m) (Stack.nested_step nested boundHere first) rested' boundLater fineLater rest
      refine ⟨s', k, ?_⟩
      have all := run.trans run'
      cases command : commandOf e <;> simpa [command] using all

/-- Every run of the sequential model in which no run loop fails is one of the threads: some
schedule makes the same calls in the same order and ends in the same stack, up to the number
of the server. -/
theorem calls_realized {address : String} {es : List Stack.StackEvent}
    (bound : ∀ e ∈ es, Stack.BoundBuild e) (fine : ∀ e ∈ es, NoFailure e)
    (ran : (Stack.machine config address).exec es (.new config address) = some t) :
    ∃ (run : List Label) (s : Sys) (n : Server), (∀ l ∈ run, l.Bound) ∧
      (machine config).exec run .init = some s ∧
      run.filterMap Label.command = es.filterMap commandOf ∧ s = s.load (numbered n t) .idle := by
  have rested : Rested (.new config address) .init :=
    ⟨rfl, fun _ i thread => absurd thread (by simp [Sys.init]),
      fun live => absurd live (by simp [Stack.new, GrpcTransport.new])⟩
  have nested : Stack.Nested config (.new config address) :=
    Stack.nested_of_down rfl rfl rfl rfl rfl
  obtain ⟨s, n, run, bounds, reached, commands⟩ := events_realized (n := 0) nested rested bound fine ran
  exact ⟨run, s.load (numbered n t) .idle, n, bounds, reached, commands, rfl⟩

/-- A start whose port is taken, one that works, a second one on top of it, a stop, and a
start that misses a stub. -/
def variedEvents : List Stack.StackEvent :=
  [.startAsync ⟨.fine, .noServer, .fine, []⟩,
    .startAsync ⟨.fine, ⟨some 7, 50051⟩, .fine, [.ok ()]⟩,
    .startAsync ⟨.fine, ⟨some 3, 50051⟩, .fine, []⟩,
    .runLoopEnds (.ok ()),
    .stop ⟨(), .fine⟩,
    .startAsync ⟨Core.videoStubMissing, ⟨some 3, 50051⟩, .fine, []⟩]

theorem calls_realized_variedEvents :
    ∃ t run s n,
      (Stack.machine Core.pairedConfig "localhost:50051").exec variedEvents
        (.new Core.pairedConfig "localhost:50051") = some t ∧
      (machine Core.pairedConfig).exec run .init = some s ∧
      run.filterMap Label.command = [.startAsync, .startAsync, .startAsync, .stop, .startAsync] ∧
      s = s.load (numbered n t) .idle := by
  have ends : ((Stack.machine Core.pairedConfig "localhost:50051").exec variedEvents
      (.new Core.pairedConfig "localhost:50051")).isSome = true := rfl
  obtain ⟨t, ran⟩ := Option.isSome_iff_exists.mp ends
  have bound : ∀ e ∈ variedEvents, Stack.BoundBuild e := by
    simp [variedEvents, Stack.BoundBuild, Build.Bound, Build.noServer]
  have fine : ∀ e ∈ variedEvents, NoFailure e := by
    simp [variedEvents, NoFailure]
  obtain ⟨run, s, n, -, reached, commands, held⟩ := calls_realized bound fine ran
  exact ⟨t, run, s, n, ran, reached, commands, held⟩

end SensorCore.Threads
