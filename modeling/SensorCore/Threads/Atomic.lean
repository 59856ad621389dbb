import SensorCore.Api.Stack
import SensorCore.Threads.Machine

/-!
The calls of the controller are atomic.

In the machine a call is many steps, with run loops and RPCs in between; in `Api.Stack` it
is one. `calls_atomic` says that the difference does not show between calls: whatever the
threads do, the shared state is then the one that the sequential model reaches by the same
calls in the same order, with run loops that end in between. Results about the sequential
model hold of the threads, too.

The argument looks at the rest of a call, as if the controlling thread were never held up
(`Finishes`). Of the other threads only a run loop that fails writes something that the
call uses: it lowers the controller's flag. But only `stop` reads the flag, and only at its
start. So the store can as well come after the call, or before a `stop` that has not yet
read the flag (`Finishes.of_stored`).
-/

namespace SensorCore.Threads

open SensorCore.Lib SensorCore.Config SensorCore.Clients SensorCore.Api

/-! ### The rest of a call -/

/-- The number of a loop does not matter to the call. -/
def Phase.bare : Phase → Phase
  | .join _ => .join 0
  | phase => phase

/-- What a call computes with, without what may hold it up. -/
def Sys.bare (s : Sys) : Sys :=
  { s with
    phase := s.phase.bare
    serviceThread := none
    loops := []
    rpcs := []
    bound := []
    shut := []
    started := none }

/-- The call ends like this when the controlling thread goes on alone and is never held up. -/
inductive Finishes (config : InfrastructureConfig) : Sys → Sys → Prop where
  | idle {s : Sys} : s.phase = .idle → Finishes config s s.bare
  | step {s s₁ s' : Sys} {w : World} : w.Bound → s.bare.ctrl config w = some s₁ →
      Finishes config s₁ s' → Finishes config s s'

variable {config : InfrastructureConfig} {s s' u : Sys}

theorem Phase.bare_idle {phase : Phase} : phase.bare = .idle ↔ phase = .idle := by
  cases phase <;> simp [Phase.bare]

theorem Phase.bare_apiTest {phase : Phase} : phase.bare = .apiTest ↔ phase = .apiTest := by
  cases phase <;> simp [Phase.bare]

@[simp] theorem Sys.bare_bare : s.bare.bare = s.bare := by
  have same : s.phase.bare.bare = s.phase.bare := by cases s.phase <;> rfl
  simp only [Sys.bare, same]

/-- The state with another value of the controller's flag. -/
def Sys.flagged (flag : Bool) (s : Sys) : Sys := { s.bare with isRunning := flag }

/-- A step of the call is a step of its rest. The flag is read by one step only; another
value of it is kept or overwritten by all others. -/
theorem ctrl_flagged {w : World} (flag : Bool) (ran : s.ctrl config w = some s')
    (unread : s.phase = .apiTest → flag = s.isRunning) :
    ∃ s₁ flag', (s.flagged flag).ctrl config w = some s₁ ∧ s₁.bare = s'.flagged flag' ∧
      (flag' = s'.isRunning ∨ flag' = flag ∧ s'.isRunning = s.isRunning) := by
  cases at_ : s.phase
  all_goals
    simp only [Sys.ctrl, at_] at ran
    simp only [Sys.flagged, Sys.ctrl, Sys.bare, at_, Phase.bare]
  case idle => cases ran
  case apiTest =>
    rw [unread at_]
    cases ran
    refine ⟨_, s.isRunning, rfl, ?_⟩
    split
    · exact ⟨rfl, .inl rfl⟩
    · exact ⟨rfl, .inl rfl⟩
  case newManager | managerReset =>
    split at ran
    · rename_i survives
      cases ran
      exact ⟨_, flag, if_pos survives, rfl, .inr ⟨rfl, rfl⟩⟩
    · cases ran
  case fillManager =>
    split at ran
    · cases ran
    · split at ran <;> cases ran <;> exact ⟨_, flag, rfl, rfl, .inr ⟨rfl, rfl⟩⟩
  case shutdownReturn =>
    split at ran
    · cases ran
    · cases ran
      refine ⟨_, flag, if_neg ?_, rfl, .inr ⟨rfl, rfl⟩⟩
      simp [Sys.Serves]
  case join =>
    split at ran
    · cases ran
      refine ⟨_, flag, if_pos ?_, rfl, .inr ⟨rfl, rfl⟩⟩
      simp [Sys.joinable]
    · cases ran
  case clear =>
    split at ran
    · cases ran
      exact ⟨_, flag, rfl, rfl, .inr ⟨rfl, rfl⟩⟩
    · split at ran <;> cases ran <;> exact ⟨_, flag, rfl, rfl, .inr ⟨rfl, rfl⟩⟩
  case buildTest =>
    split at ran <;> rename_i missing <;> cases ran
    · exact ⟨_, flag, if_pos missing, rfl, .inr ⟨rfl, rfl⟩⟩
    · exact ⟨_, flag, if_neg missing, rfl, .inr ⟨rfl, rfl⟩⟩
  case coreTest | handlerTest | coreStopTest =>
    cases ran
    refine ⟨_, flag, rfl, ?_⟩
    split
    · exact ⟨rfl, .inr ⟨rfl, rfl⟩⟩
    · exact ⟨rfl, .inr ⟨rfl, rfl⟩⟩
  case apiRaise =>
    cases ran
    exact ⟨_, true, rfl, rfl, .inl rfl⟩
  case apiLower =>
    cases ran
    exact ⟨_, false, rfl, rfl, .inl rfl⟩
  all_goals
    cases ran
    exact ⟨_, flag, rfl, rfl, .inr ⟨rfl, rfl⟩⟩

/-- Only a call of `stop` leads to its test of the flag. -/
theorem ctrl_untested {w : World} (ran : s.ctrl config w = some s') : s'.phase ≠ .apiTest := by
  cases h : s.phase <;> simp only [Sys.ctrl, h] at ran
  case idle => cases ran
  case coreTest | apiTest | handlerTest | coreStopTest =>
    cases ran
    split <;> simp [Sys.complete]
  case buildTest =>
    split at ran <;> cases ran <;> simp
  case newManager | managerReset | join =>
    split at ran
    · cases ran
      simp
    · cases ran
  case shutdownReturn =>
    split at ran
    · cases ran
    · cases ran
      simp
  case fillManager | clear =>
    split at ran
    · cases ran
      try simp
    · split at ran <;> cases ran <;> simp [Sys.complete]
  case transportTest | serverTest =>
    cases ran
    simp only
    split <;> simp
  all_goals
    cases ran
    simp [Sys.complete, Sys.build]

/-- A step of the call is a step of its rest. -/
theorem ctrl_bare {w : World} (ran : s.ctrl config w = some s') :
    ∃ s₁, s.bare.ctrl config w = some s₁ ∧ s₁.bare = s'.bare := by
  obtain ⟨s₁, flag, stepped, same, kept⟩ := ctrl_flagged s.isRunning ran fun _ => rfl
  refine ⟨s₁, stepped, same.trans ?_⟩
  rcases kept with rfl | ⟨rfl, kept⟩
  · rfl
  · rw [← kept]
    rfl

/-- The rest of a call depends on what it computes with only. -/
theorem Finishes.congr (finishes : Finishes config s s') (same : s.bare = u.bare) :
    Finishes config u s' := by
  cases finishes with
  | idle at_ =>
      have phase : s.phase.bare = u.phase.bare := congrArg Sys.phase same
      rw [same]
      exact .idle (Phase.bare_idle.mp (phase ▸ Phase.bare_idle.mpr at_))
  | step bound stepped rest =>
      rw [same] at stepped
      exact .step bound stepped rest

/-- A step of the call leaves the rest of the rest. -/
theorem Finishes.of_ctrl {w : World} (bound : w.Bound) (ran : s.ctrl config w = some u)
    (finishes : Finishes config u s') : Finishes config s s' := by
  obtain ⟨s₁, stepped, same⟩ := ctrl_bare ran
  exact .step bound stepped (finishes.congr same.symm)

/-- A call that is not over has a next step. -/
theorem Finishes.next (finishes : Finishes config s s') (calling : s.phase ≠ .idle) :
    ∃ w s₁, w.Bound ∧ s.bare.ctrl config w = some s₁ ∧ Finishes config s₁ s' := by
  cases finishes with
  | idle at_ => exact absurd at_ calling
  | step bound stepped rest => exact ⟨_, _, bound, stepped, rest⟩

theorem Finishes.done (finishes : Finishes config s s') (idle : s.phase = .idle) :
    s' = s.bare := by
  cases finishes with
  | idle _ => rfl
  | step _ stepped _ => simp [Sys.ctrl, Sys.bare, idle, Phase.bare] at stepped

/-- When the flag is lowered in the middle of a call that will not read it any more, the
call ends as before, except that the flag may then be down. -/
theorem Finishes.of_stored (finishes : Finishes config u s') (stored : u.bare = s.flagged false)
    (unread : s.phase ≠ .apiTest) :
    ∃ s'', Finishes config s s'' ∧ (s' = s'' ∨ s' = s''.flagged false) := by
  induction finishes generalizing s with
  | idle at_ =>
      have phase : s.phase.bare = .idle := by
        rw [← Phase.bare_idle.mpr at_]
        exact (congrArg Sys.phase stored).symm
      refine ⟨s.bare, .idle (Phase.bare_idle.mp phase), .inr ?_⟩
      rw [stored, Sys.flagged, Sys.flagged, Sys.bare_bare]
  | @step u u₁ s' w bound stepped rest ih =>
      have phase : u.bare.phase = s.phase.bare := congrArg Sys.phase stored
      have unread' : u.bare.phase = .apiTest → s.isRunning = u.bare.isRunning := by
        intro at_
        rw [phase] at at_
        exact absurd (Phase.bare_apiTest.mp at_) unread
      obtain ⟨s₁, flag, stepped', same, kept⟩ := ctrl_flagged s.isRunning stepped unread'
      have back : u.bare.flagged s.isRunning = s.bare := by
        rw [stored, Sys.flagged, Sys.flagged]
        exact Sys.bare_bare
      rw [back] at stepped'
      rcases kept with rfl | ⟨-, kept⟩
      · exact ⟨s', .step bound stepped' (rest.congr same.symm), .inl rfl⟩
      · have lowered : u₁.isRunning = false := kept.trans (congrArg Sys.isRunning stored)
        have stored' : u₁.bare = s₁.flagged false := by
          rw [Sys.flagged, same, ← lowered]
          rfl
        obtain ⟨s'', finishes, ends⟩ := ih stored' (ctrl_untested stepped')
        exact ⟨s'', .step bound stepped' finishes, ends⟩

/-! ### What the rest of a call computes -/

/-- The shared state `s` with the stack `t` in it. -/
def Sys.load (s : Sys) (t : Stack) (phase : Phase) : Sys :=
  { s with
    isRunning := t.isRunning
    handlerRunning := t.requestHandler.isRunning
    coreRunning := t.requestHandler.core.isRunning
    clientManager := t.requestHandler.core.clientManager
    transport := t.transport
    phase }

/-- A call with this stack, and nothing that may hold it up. -/
def Sys.calling (n : Server) (t : Stack) (phase : Phase) : Sys :=
  { Sys.init with nextServer := n }.load t phase

@[simp] theorem Sys.calling_phase (n : Server) (t : Stack) (phase : Phase) :
    (Sys.calling n t phase).phase = phase := rfl

variable {n : Server} {t : Stack}

/-- A core whose shutdown throws is as before, but for what the shutdown took away. -/
theorem core_stop_thrown {c : Core} {o : Core.StopOutcome} {m m' : GrpcClientManager}
    {what : String} (running : c.isRunning = true) (managed : c.clientManager = some m)
    (thrown : m.shutdown o.shutdown = (.error what, m')) :
    ∃ r after, c.stop o = some (r, after) ∧ after.clientManager = some m' ∧
      after.isRunning = true := by
  unfold Core.stop
  rw [if_pos running]
  split
  · rename_i unmanaged
    rw [managed] at unmanaged
    cases unmanaged
  · rename_i m₀ managed'
    cases managed.symm.trans managed'
    rw [thrown]
    exact ⟨_, _, rfl, rfl, running⟩

/-- A core whose shutdown goes well is new. -/
theorem core_stop_closed {c : Core} {o : Core.StopOutcome} {m m' : GrpcClientManager}
    (running : c.isRunning = true) (managed : c.clientManager = some m)
    (closed : m.shutdown o.shutdown = (.ok (), m'))
    (survives : Core.survivesDestructor o.discard (some m') = true) :
    c.stop o = some (.ok (), .new c.infrastructureConfig) := by
  unfold Core.stop
  rw [if_pos running]
  split
  · rfl
  · rename_i m₀ managed'
    cases managed.symm.trans managed'
    simp only [closed, survives, if_true]

/-- From the test in `Core::stop` on. -/
theorem core_stop_rest (finishes : Finishes config (.calling n t .coreStopTest) s') :
    ∃ o r core, t.requestHandler.core.stop o = some (r, core) ∧
      s' = .calling n { t with requestHandler := { t.requestHandler with core } } .idle := by
  obtain ⟨w, s₁, -, tested, rest⟩ := finishes.next (by simp)
  have tested : some (if t.requestHandler.core.isRunning then Sys.calling n t .clear
      else (Sys.calling n t .coreStopTest).complete) = some s₁ := tested
  split at tested
  · rename_i running
    cases tested
    obtain ⟨m, managed⟩ := Option.isSome_iff_exists.mp (t.requestHandler.core.managed running)
    obtain ⟨w, s₁, -, cleared, rest⟩ := rest.next (by simp)
    simp only [Sys.ctrl, Sys.calling, Sys.load, Sys.bare, Phase.bare, managed] at cleared
    split at cleared
    · rename_i m' closed
      cases cleared
      obtain ⟨w', s₁, -, dropped, rest⟩ := rest.next (by simp)
      have dropped : (if Core.survivesDestructor w'.shutdown (some m') then _ else none) = some s₁ :=
        dropped
      split at dropped
      · rename_i survives
        cases dropped
        obtain ⟨w'', s₁, -, lowered, rest⟩ := rest.next (by simp)
        cases lowered
        exact ⟨⟨w.shutdown, w'.shutdown⟩, _, _, core_stop_closed running managed closed survives,
          rest.done rfl⟩
      · cases dropped
    · rename_i what m' thrown
      cases cleared
      obtain ⟨r, after, ran, managed', still⟩ :=
        core_stop_thrown (o := ⟨w.shutdown, .quiet⟩) running managed thrown
      refine ⟨_, r, after, ran, ?_⟩
      rw [rest.done rfl]
      simp only [Sys.calling, Sys.load, managed', still, ← running]
      rfl
  · rename_i stopped
    cases tested
    exact ⟨.fine, .ok (), t.requestHandler.core, if_neg stopped, rest.done rfl⟩

/-- From the test in `RequestHandler::stop` on. -/
theorem handler_stop_rest (finishes : Finishes config (.calling n t .handlerTest) s') :
    ∃ o r handler, t.requestHandler.stop coreLifecycle o = some (r, handler) ∧
      s' = .calling n { t with requestHandler := handler } .idle := by
  obtain ⟨w, s₁, -, tested, rest⟩ := finishes.next (by simp)
  have tested : some (if t.requestHandler.isRunning then Sys.calling n t .handlerLower
      else (Sys.calling n t .handlerTest).complete) = some s₁ := tested
  split at tested
  · rename_i running
    cases tested
    obtain ⟨w, s₁, -, lowered, rest⟩ := rest.next (by simp)
    cases lowered
    let low : Stack := { t with requestHandler := { t.requestHandler with isRunning := false } }
    obtain ⟨o, r, core, ran, ends⟩ :=
      @core_stop_rest config s' n low (rest.congr (u := .calling n low .coreStopTest) rfl)
    have called : coreLifecycle.stop o t.requestHandler.core = some (r, core) := ran
    have stopped : ∃ r', t.requestHandler.stop coreLifecycle o =
        some (r', { core, isRunning := false }) := by
      rw [RequestHandler.stop, if_pos running, called]
      cases r <;> exact ⟨_, rfl⟩
    obtain ⟨r', stopped⟩ := stopped
    exact ⟨o, r', _, stopped, ends⟩
  · rename_i stopped
    cases tested
    exact ⟨.fine, .ok (), t.requestHandler, if_neg stopped, rest.done rfl⟩

/-- A transport that is stopped does not fail. -/
theorem transport_stop_ok {t : GrpcTransport} : (GrpcTransport.stop t).1 = .ok () := by
  unfold GrpcTransport.stop
  split <;> rfl

/-- From the test in `GrpcTransport::stop` on. -/
theorem transport_stop_rest (finishes : Finishes config (.calling n t .transportTest) s') :
    Finishes config (.calling n { t with transport := t.transport.stop.2 } .handlerTest) s' := by
  obtain ⟨w, s₁, -, tested, rest⟩ := finishes.next (by simp)
  have tested : some (Sys.calling n t (if t.transport.isRunning then .serverTest else .handlerTest)) =
      some s₁ := tested
  cases running : t.transport.isRunning with
  | false =>
      rw [running] at tested
      cases tested
      rw [GrpcTransport.stop_stopped running]
      exact rest
  | true =>
      rw [running] at tested
      cases tested
      rw [GrpcTransport.stop_running running]
      obtain ⟨w, s₁, -, seen, rest⟩ := rest.next (by simp)
      have seen : some (Sys.calling n t
          (if t.transport.server.isSome then .shutdownCall else .transportLower)) = some s₁ := seen
      have lower : ∀ {s₁}, Finishes config s₁ s' → s₁.bare = Sys.calling n
          { t with transport := { t.transport with server := none } } .transportLower →
          Finishes config (.calling n { t with transport := .new } .handlerTest) s' := by
        intro s₁ rest same
        obtain ⟨w, s₂, -, lowered, rest⟩ := (rest.congr
          (u := .calling n { t with transport := { t.transport with server := none } }
            .transportLower) same).next (by simp)
        cases lowered
        exact rest.congr rfl
      cases live : t.transport.server with
      | none =>
          rw [if_neg (by simp [live])] at seen
          cases seen
          have same : t = { t with transport := { t.transport with server := none } } := by
            rw [← live]
          exact lower rest (congrArg (fun t => Sys.calling n t .transportLower) same)
      | some server =>
          rw [if_pos (by simp [live])] at seen
          cases seen
          obtain ⟨w, s₁, -, called, rest⟩ := rest.next (by simp)
          cases called
          obtain ⟨w, s₁, -, returned, rest⟩ :=
            (rest.congr (u := .calling n t .shutdownReturn) rfl).next
              (by simp)
          have returned : (if (Sys.calling n t .shutdownReturn).Serves then none
              else some (Sys.calling n t .serverReset)) = some s₁ := returned
          split at returned
          · cases returned
          · cases returned
            obtain ⟨w, s₁, -, reset, rest⟩ := rest.next (by simp)
            cases reset
            exact lower rest rfl

/-- `ApiController::stop`. -/
theorem stop_rest (finishes : Finishes config (.calling n t .apiTest) s') :
    ∃ o r t', t.stop GrpcTransport.lifecycle coreLifecycle o = some (r, t') ∧
      s' = .calling n t' .idle := by
  obtain ⟨w, s₁, -, tested, rest⟩ := finishes.next (by simp)
  have tested : some (if t.isRunning then Sys.calling n t .apiLower
      else (Sys.calling n t .apiTest).complete) = some s₁ := tested
  split at tested
  · rename_i running
    cases tested
    obtain ⟨w, s₁, -, lowered, rest⟩ := rest.next (by simp)
    cases lowered
    let low : Stack := { t with isRunning := false }
    have closed := transport_stop_rest (rest.congr (u := .calling n low .transportTest) rfl)
    obtain ⟨o, r, handler, ran, ends⟩ := handler_stop_rest closed
    have ran : t.requestHandler.stop coreLifecycle o = some (r, handler) := ran
    have stopped : ∃ r', t.stop GrpcTransport.lifecycle coreLifecycle ⟨(), o⟩ =
        some (r', { low with transport := t.transport.stop.2, requestHandler := handler }) := by
      have transport : GrpcTransport.lifecycle.stop () t.transport =
          some (.ok (), t.transport.stop.2) := by
        rw [← @transport_stop_ok t.transport]
        rfl
      rw [ApiController.stop, if_pos running]
      simp only [transport, ran]
      cases r <;> exact ⟨_, rfl⟩
    obtain ⟨r', stopped⟩ := stopped
    exact ⟨_, r', _, stopped, ends⟩
  · rename_i stopped
    cases tested
    exact ⟨⟨(), .fine⟩, .ok (), t, if_neg stopped, rest.done rfl⟩

/-- From `BuildAndStart` on: the run loop is spawned, or the handler is stopped again. -/
theorem build_rest (finishes : Finishes config (.calling n t .build) s') :
    ∃ (b : Build) (m : Server), b.Bound ∧
      ((∃ transport, GrpcTransport.start t.serverAddress b t.transport = (.ok (), transport) ∧
          s' = .calling m { t with transport, isRunning := true } .idle) ∨
        ∃ e transport o r handler,
          GrpcTransport.start t.serverAddress b t.transport = (.error e, transport) ∧
          t.requestHandler.stop coreLifecycle o = some (r, handler) ∧
          s' = .calling m { t with transport, requestHandler := handler } .idle) := by
  obtain ⟨w, s₁, bound, built, rest⟩ := finishes.next (by simp)
  cases built
  let b : Build := ⟨if w.build then some n else none, w.selectedPort⟩
  let transport : GrpcTransport := { t.transport with server := b.server }
  refine ⟨b, n + 1, ?_, ?_⟩
  · intro server
    apply bound
    by_contra missing
    simp [b, missing] at server
  · obtain ⟨w', s₁, -, tested, rest⟩ :=
      (rest.congr (u := .calling (n + 1) { t with transport } (.buildTest w.selectedPort)) rfl).next
        (by simp)
    have tested : (if b.server.isNone ∨ b.selectedPort = 0 then
        some (Sys.calling (n + 1) { t with transport } .handlerTest)
        else some (Sys.calling (n + 1) { t with transport } .transportRaise)) = some s₁ := tested
    split at tested
    · rename_i missing
      cases tested
      obtain ⟨o, r, handler, ran, ends⟩ := handler_stop_rest rest
      exact .inr ⟨_, transport, o, r, handler, if_pos missing, ran, ends⟩
    · rename_i opened
      cases tested
      refine .inl ⟨{ transport with isRunning := true }, if_neg opened, ?_⟩
      obtain ⟨w, s₁, -, raised, rest⟩ := rest.next (by simp)
      cases raised
      obtain ⟨w, s₁, -, running, rest⟩ := rest.next (by simp)
      cases running
      obtain ⟨w, s₁, -, spawned, rest⟩ := rest.next (by simp)
      cases spawned
      obtain ⟨w, s₁, -, joined, rest⟩ := rest.next (by simp)
      cases joined
      exact rest.done rfl

/-- A core with a filled manager runs. -/
theorem core_start_filled {c : Core} {o : Core.StartOutcome} {m : GrpcClientManager}
    (stopped : ¬ c.isRunning = true)
    (survives : Core.survivesDestructor o.discard c.clientManager = true)
    (filled : GrpcClientManager.initializeServices o.net (.new c.infrastructureConfig) =
      (.ok (), m)) :
    ∃ after, c.start o = some (.ok (), after) ∧ after.clientManager = some m ∧
      after.isRunning = true := by
  unfold Core.start
  rw [if_neg stopped, if_pos survives, GrpcClientManager.initializeClients, filled]
  exact ⟨_, rfl, rfl, rfl⟩

/-- A core whose manager cannot be filled keeps what is left of it after the clean-up. -/
theorem core_start_failed {c : Core} {o : Core.StartOutcome} {m : GrpcClientManager}
    {what : String} (stopped : ¬ c.isRunning = true)
    (survives : Core.survivesDestructor o.discard c.clientManager = true)
    (failed : GrpcClientManager.initializeServices o.net (.new c.infrastructureConfig) =
      (.error what, m)) :
    ∃ e after, c.start o = some (.error e, after) ∧
      after.clientManager = some (m.shutdown o.cleanup).2 ∧ after.isRunning = false := by
  have tried : ∃ e, GrpcClientManager.initializeClients o.net o.cleanup
      (.new c.infrastructureConfig) = (.error e, (m.shutdown o.cleanup).2) := by
    rw [GrpcClientManager.initializeClients, failed]
    dsimp only
    split
    · rename_i cleaned
      exact ⟨what, by rw [cleaned]⟩
    · rename_i what' m' cleaned
      exact ⟨what', by rw [cleaned]⟩
  obtain ⟨e, tried⟩ := tried
  unfold Core.start
  rw [if_neg stopped, if_pos survives, tried]
  exact ⟨_, _, rfl, rfl, rfl⟩

/-- `Core::start`: it fails, or the handler's flag is raised next. -/
theorem core_start_rest (same : t.requestHandler.core.infrastructureConfig = config)
    (finishes : Finishes config (.calling n t .coreTest) s') :
    ∃ o r core, t.requestHandler.core.start o = some (r, core) ∧
      ((∃ e, r = .error e ∧
          s' = .calling n { t with requestHandler := { t.requestHandler with core } } .idle) ∨
        r = .ok () ∧
          Finishes config
            (.calling n { t with requestHandler := { core, isRunning := true } } .build) s') := by
  subst same
  obtain ⟨w, s₁, -, tested, rest⟩ := finishes.next (by simp)
  have tested : some (if t.requestHandler.core.isRunning then (Sys.calling n t .coreTest).complete
      else Sys.calling n t .newManager) = some s₁ := tested
  split at tested
  · rename_i running
    cases tested
    exact ⟨.fine, _, _, if_pos running, .inl ⟨_, rfl, rest.done rfl⟩⟩
  · rename_i stopped
    cases tested
    obtain ⟨w, s₁, -, replaced, rest⟩ := rest.next (by simp)
    have replaced : (if Core.survivesDestructor w.shutdown t.requestHandler.core.clientManager then
        some { Sys.calling n t .fillManager with
          clientManager := some (.new t.requestHandler.core.infrastructureConfig) }
        else none) = some s₁ := replaced
    split at replaced
    · rename_i survives
      cases replaced
      obtain ⟨w', s₁, -, filled, rest⟩ := rest.next (by simp)
      simp only [Sys.ctrl, Sys.calling, Sys.load, Sys.bare, Phase.bare] at filled
      split at filled
      · rename_i m services
        cases filled
        obtain ⟨w'', s₁, -, raised, rest⟩ := rest.next (by simp)
        cases raised
        obtain ⟨w'', s₁, -, up, rest⟩ := rest.next (by simp)
        cases up
        obtain ⟨core, ran, managed, running⟩ :=
          core_start_filled (o := ⟨w.shutdown, w'.net, .quiet⟩) stopped survives services
        refine ⟨_, _, core, ran, .inr ⟨rfl, rest.congr ?_⟩⟩
        simp only [Sys.calling, Sys.load, managed, running]
        rfl
      · rename_i what m services
        cases filled
        obtain ⟨w'', s₁, -, cleaned, rest⟩ := rest.next (by simp)
        cases cleaned
        obtain ⟨e, core, ran, managed, idle⟩ :=
          core_start_failed (o := ⟨w.shutdown, w'.net, w''.shutdown⟩) stopped survives services
        refine ⟨_, _, core, ran, .inl ⟨e, rfl, ?_⟩⟩
        rw [rest.done rfl]
        simp only [Sys.calling, Sys.load, managed, idle, ← Bool.eq_false_iff.mpr stopped]
        rfl
    · cases replaced

/-- `ApiController::startAsync`. -/
theorem startAsync_rest (same : t.requestHandler.core.infrastructureConfig = config)
    (finishes : Finishes config (.calling n t .coreTest) s') :
    ∃ o r t' m, o.transport.Bound ∧
      t.startAsync GrpcTransport.lifecycle coreLifecycle o = some (r, t') ∧
      s' = .calling m t' .idle := by
  obtain ⟨o, r, core, ran, ⟨e, rfl, ends⟩ | ⟨rfl, rest⟩⟩ := core_start_rest same finishes
  · have failed : t.requestHandler.start coreLifecycle o =
        some (.error e, { t.requestHandler with core }) := by
      have called : coreLifecycle.start o t.requestHandler.core = some (.error e, core) := ran
      rw [RequestHandler.start, called]
    refine ⟨⟨o, .noServer, .fine, []⟩, .error e, _, n, ?_, ?_, ends⟩
    · simp [Build.Bound, Build.noServer]
    · rw [ApiController.startAsync]
      simp only [failed]
  · have started : t.requestHandler.start coreLifecycle o =
        some (.ok (), { core, isRunning := true }) := by
      have called : coreLifecycle.start o t.requestHandler.core = some (.ok (), core) := ran
      rw [RequestHandler.start, called]
    obtain ⟨b, m, bound, ⟨transport, opened, ends⟩ |
      ⟨e, transport, out, r, handler, failed, stopped, ends⟩⟩ := build_rest rest
    · have called : GrpcTransport.lifecycle.start t.serverAddress b t.transport =
          some (.ok (), transport) := congrArg some opened
      refine ⟨⟨o, b, .fine, []⟩, .ok (), _, m, bound, ?_, ends⟩
      rw [ApiController.startAsync]
      simp only [started, called, List.foldl_nil]
    · have called : GrpcTransport.lifecycle.start t.serverAddress b t.transport =
          some (.error e, transport) := congrArg some failed
      have rolledBack : ∃ r', t.startAsync GrpcTransport.lifecycle coreLifecycle ⟨o, b, out, []⟩ =
          some (r', { t with transport, requestHandler := handler }) := by
        rw [ApiController.startAsync]
        simp only at stopped
        simp only [started, called, stopped]
        cases r <;> exact ⟨_, rfl⟩
      obtain ⟨r', rolledBack⟩ := rolledBack
      exact ⟨_, r', _, m, bound, rolledBack, ends⟩

/-! ### Between calls -/

inductive Command where
  | startAsync
  | stop
  deriving DecidableEq, Repr

/-- The call that begins with the step. -/
def Label.command : Label → Option Command
  | .startAsync => some .startAsync
  | .stop => some .stop
  | .ctrl _ | .loop _ | .accept _ _ _ | .rpc _ => none

/-- The call that an event of the sequential model is. -/
def commandOf : Stack.StackEvent → Option Command
  | .startAsync _ => some .startAsync
  | .stop _ => some .stop
  | .runLoopEnds _ => none

/-- The sequential model gets to the stack by these calls. -/
def Sequential (config : InfrastructureConfig) (address : String) (commands : List Command)
    (t : Stack) : Prop :=
  ∃ es : List Stack.StackEvent, (∀ e ∈ es, Stack.BoundBuild e) ∧
    (Stack.machine config address).exec es (.new config address) = some t ∧
    es.filterMap commandOf = commands

variable {address : String} {commands : List Command}

theorem Sequential.event {e : Stack.StackEvent} {t' : Stack}
    (sequential : Sequential config address commands t) (bound : Stack.BoundBuild e)
    (ran : (Stack.machine config address).step e t = some t') :
    Sequential config address (commands ++ (commandOf e).toList) t' := by
  obtain ⟨es, bounds, reached, rfl⟩ := sequential
  refine ⟨es ++ [e], ?_, ?_, ?_⟩
  · rw [List.forall_mem_append]
    exact ⟨bounds, by simpa using bound⟩
  · rw [Machine.exec_append, reached, Option.bind_some, Machine.exec_cons, ran]
    rfl
  · rw [List.filterMap_append]
    cases h : commandOf e <;> simp [h]

theorem Sequential.startAsync {o : StartOutcome Core.StartOutcome Build Core.StopOutcome}
    {r : Result Unit} {t' : Stack} (sequential : Sequential config address commands t)
    (bound : o.transport.Bound)
    (ran : t.startAsync GrpcTransport.lifecycle coreLifecycle o = some (r, t')) :
    Sequential config address (commands ++ [.startAsync]) t' :=
  sequential.event (e := .startAsync o) bound (congrArg (Option.map Prod.snd) ran)

theorem Sequential.stop {o : StopOutcome Unit Core.StopOutcome} {r : Result Unit} {t' : Stack}
    (sequential : Sequential config address commands t)
    (ran : t.stop GrpcTransport.lifecycle coreLifecycle o = some (r, t')) :
    Sequential config address (commands ++ [.stop]) t' :=
  sequential.event (e := .stop o) trivial (congrArg (Option.map Prod.snd) ran)

/-- A run loop that fails between two calls. -/
theorem Sequential.lowered (sequential : Sequential config address commands t) :
    Sequential config address commands { t with isRunning := false } := by
  have ended := sequential.event (e := .runLoopEnds (.error "")) trivial rfl
  rw [commandOf, Option.toList_none, List.append_nil] at ended
  exact ended

theorem Sequential.nested (sequential : Sequential config address commands t) :
    t.Nested config := by
  obtain ⟨es, bounds, reached, -⟩ := sequential
  have reach : Stack.Reachable config address t := .of_exec .init bounds reached
  exact reach.invariant (Stack.nested_of_down rfl rfl rfl rfl rfl)
    fun _ _ _ nested bound ran => Stack.nested_step nested bound ran

/-- However the call in progress ends, the sequential model gets there by the same calls;
at the beginning of a stop it gets to the state itself, by the calls before. -/
structure Atomic (config : InfrastructureConfig) (address : String) (commands : List Command)
    (s : Sys) : Prop where
  unread : s.phase = .apiTest → ∃ earlier t n, commands = earlier ++ [.stop] ∧
    Sequential config address earlier t ∧ s.bare = .calling n t .apiTest
  rest : s.phase ≠ .apiTest → ∀ s', Finishes config s s' →
    ∃ t n, Sequential config address commands t ∧ s' = .calling n t .idle

/-- What the call does not compute with does not matter. -/
theorem Atomic.congr (atomic : Atomic config address commands s) (same : s.bare = u.bare) :
    Atomic config address commands u := by
  have phase : s.phase = .apiTest ↔ u.phase = .apiTest := by
    have same' : s.phase.bare = u.phase.bare := congrArg Sys.phase same
    rw [← Phase.bare_apiTest, same', Phase.bare_apiTest]
  constructor
  · intro at_
    rw [← same]
    exact atomic.unread (phase.mpr at_)
  · intro other s' finishes
    exact atomic.rest (mt phase.mp other) s' (finishes.congr same.symm)

/-- A run loop that fails. -/
theorem Atomic.stored (atomic : Atomic config address commands s)
    (stored : u.bare = s.flagged false) : Atomic config address commands u := by
  have phase : s.phase = .apiTest ↔ u.phase = .apiTest := by
    have same : u.phase.bare = s.phase.bare := congrArg Sys.phase stored
    rw [← Phase.bare_apiTest, ← same, Phase.bare_apiTest]
  constructor
  · intro at_
    obtain ⟨earlier, t, n, rfl, sequential, same⟩ := atomic.unread (phase.mpr at_)
    refine ⟨earlier, _, n, rfl, sequential.lowered, ?_⟩
    rw [stored, Sys.flagged, same]
    rfl
  · intro other s' finishes
    obtain ⟨s'', finishes', rfl | rfl⟩ := finishes.of_stored stored (mt phase.mp other)
    · exact atomic.rest (mt phase.mp other) _ finishes'
    · obtain ⟨t, n, sequential, rfl⟩ := atomic.rest (mt phase.mp other) _ finishes'
      exact ⟨_, n, sequential.lowered, rfl⟩

/-- Between calls the state is one of the sequential model. -/
theorem Atomic.idle (atomic : Atomic config address commands s) (idle : s.phase = .idle) :
    ∃ t n, Sequential config address commands t ∧ s.bare = .calling n t .idle :=
  atomic.rest (by simp [idle]) _ (.idle idle)

/-- One step of any thread. -/
theorem atomic_step {l : Label} (atomic : Atomic config address commands s) (bound : l.Bound)
    (ran : (machine config).step l s = some s') :
    Atomic config address (commands ++ l.command.toList) s' := by
  have shown := step_cases ran
  cases l with
  | startAsync =>
      obtain ⟨idle, rfl⟩ := shown
      obtain ⟨t, n, sequential, same⟩ := atomic.idle idle
      have started : Sys.bare { s with phase := .coreTest } = .calling n t .coreTest :=
        congrArg (fun s : Sys => { s with phase := .coreTest }) same
      refine ⟨by simp, fun _ s' finishes => ?_⟩
      obtain ⟨o, r, t', m, bound, ran, ends⟩ :=
        startAsync_rest sequential.nested.config (finishes.congr (u := .calling n t .coreTest) started)
      exact ⟨t', m, sequential.startAsync bound ran, ends⟩
  | stop =>
      obtain ⟨idle, rfl⟩ := shown
      obtain ⟨t, n, sequential, same⟩ := atomic.idle idle
      refine ⟨fun _ => ⟨commands, t, n, rfl, sequential, ?_⟩, by simp⟩
      exact congrArg (fun s : Sys => { s with phase := .apiTest }) same
  | ctrl w =>
      rw [Label.command, Option.toList_none, List.append_nil]
      refine ⟨fun at_ => absurd at_ (ctrl_untested shown), fun _ s'' finishes => ?_⟩
      have finishes := finishes.of_ctrl bound shown
      by_cases at_ : s.phase = .apiTest
      · obtain ⟨earlier, t, n, rfl, sequential, same⟩ := atomic.unread at_
        obtain ⟨o, r, t', ran, ends⟩ :=
          stop_rest (finishes.congr (u := .calling n t .apiTest) same)
        exact ⟨t', n, sequential.stop ran, ends⟩
      · exact atomic.rest at_ s'' finishes
  | loop i =>
      rw [Label.command, Option.toList_none, List.append_nil]
      obtain ⟨l, l', isRunning, -, next, rfl⟩ := shown
      have kept : isRunning = s.isRunning ∨ isRunning = false := by
        cases l <;> simp only [Loop.next] at next
        case tested =>
          split at next <;> cases next <;> exact .inl rfl
        case waiting =>
          split at next <;> cases next
          exact .inl rfl
        case failed =>
          cases next
          exact .inr rfl
        all_goals
          cases next
          try exact .inl rfl
      rcases kept with rfl | rfl
      · exact atomic.congr rfl
      · exact atomic.stored rfl
  | accept server service cameraId =>
      obtain ⟨-, rfl⟩ := shown
      rw [Label.command, Option.toList_none, List.append_nil]
      exact atomic.congr rfl
  | rpc i =>
      obtain ⟨r, stage, -, -, rfl⟩ := shown
      rw [Label.command, Option.toList_none, List.append_nil]
      exact atomic.congr rfl

/-- Steps of all threads. -/
theorem atomic_run {run : List Label} (atomic : Atomic config address commands s)
    (bound : ∀ l ∈ run, l.Bound) (ran : (machine config).exec run s = some s') :
    Atomic config address (commands ++ run.filterMap Label.command) s' := by
  induction run generalizing s commands with
  | nil =>
      cases ran
      rw [List.filterMap_nil, List.append_nil]
      exact atomic
  | cons l run ih =>
      obtain ⟨here, later⟩ := List.forall_mem_cons.mp bound
      obtain ⟨s₁, first, rest⟩ := Option.bind_eq_some_iff.mp ran
      have next := ih (atomic_step atomic here first) later rest
      rw [List.append_assoc] at next
      cases h : l.command <;> simpa [h] using next

theorem atomic_init : Atomic config address [] .init := by
  refine ⟨by simp [Sys.init], fun _ s' finishes => ?_⟩
  exact ⟨.new config address, 0, ⟨[], by simp, rfl, rfl⟩, finishes.done rfl⟩

theorem load_of_bare (same : s.bare = .calling n t .idle) (idle : s.phase = .idle) :
    s = s.load t .idle := by
  have flag : s.isRunning = t.isRunning := congrArg Sys.isRunning same
  have handler : s.handlerRunning = t.requestHandler.isRunning := congrArg Sys.handlerRunning same
  have core : s.coreRunning = t.requestHandler.core.isRunning := congrArg Sys.coreRunning same
  have manager : s.clientManager = t.requestHandler.core.clientManager :=
    congrArg Sys.clientManager same
  have transport : s.transport = t.transport := congrArg Sys.transport same
  rw [Sys.load, ← flag, ← handler, ← core, ← manager, ← transport, ← idle]

/-- Whatever run loops and RPCs do in the meantime, between calls the shared state is one
that the sequential model reaches by the same calls in the same order; so its layers are
nested. -/
theorem calls_atomic {run : List Label} (bound : ∀ l ∈ run, l.Bound)
    (ran : (machine config).exec run .init = some s) (idle : s.phase = .idle)
    (address : String) :
    ∃ (es : List Stack.StackEvent) (t : Stack), (∀ e ∈ es, Stack.BoundBuild e) ∧
      (Stack.machine config address).exec es (.new config address) = some t ∧
      es.filterMap commandOf = run.filterMap Label.command ∧ s = s.load t .idle ∧
      t.Nested config := by
  obtain ⟨t, n, sequential, held⟩ := (atomic_run (@atomic_init config address) bound ran).idle idle
  have nested := sequential.nested
  obtain ⟨es, bounds, reached, same⟩ := sequential
  rw [List.nil_append] at same
  exact ⟨es, t, bounds, reached, same, load_of_bare held idle, nested⟩

/-- A start, a stop that waits for an RPC, and a second start: the first run loop looks at
the server only after the stop, and its store comes after the second start has raised the
flag. -/
def leftoverRun : List Label :=
  Label.startAsync :: List.replicate 11 (.ctrl .fine) ++
    [Label.accept 0 .camera 7, .rpc 0, .stop] ++ List.replicate 5 (Label.ctrl .fine) ++
    [Label.rpc 0, .rpc 0] ++ List.replicate 9 (Label.ctrl .fine) ++
    [Label.loop 0, .startAsync] ++ List.replicate 9 (Label.ctrl .fine) ++
    [Label.loop 0, .ctrl .fine, .ctrl .fine]

theorem calls_atomic_leftoverRun :
    ∃ s, (machine ⟨∅⟩).exec leftoverRun .init = some s ∧ s.isRunning = false ∧
      ∃ es t, (Stack.machine ⟨∅⟩ "localhost:50051").exec es (.new ⟨∅⟩ "localhost:50051") = some t ∧
        es.filterMap commandOf = [.startAsync, .stop, .startAsync] ∧ s = s.load t .idle := by
  have ends : ((machine ⟨∅⟩).exec leftoverRun .init).map (fun s => (s.phase, s.isRunning)) =
      some (.idle, false) := rfl
  obtain ⟨s, ran, seen⟩ := Option.map_eq_some_iff.mp ends
  obtain ⟨idle, flag⟩ := Prod.mk.inj seen
  have bound : ∀ l ∈ leftoverRun, l.Bound := by
    simp [leftoverRun, Label.Bound, World.Bound, World.fine, or_imp, forall_and]
  obtain ⟨es, t, -, reached, commands, held, -⟩ := calls_atomic bound ran idle "localhost:50051"
  exact ⟨s, ran, flag, es, t, reached, commands, held⟩

end SensorCore.Threads
