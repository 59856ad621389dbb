import SensorCore.Threads.Delivery
import SensorCore.Threads.Single

/-!
The process: `main`, its threads and its signals.

`main` initializes the application, starts it, polls in `run` until a signal asks for
the shutdown, stops it and returns; then the destructors run, from the controller
inwards. Here `main` is the controlling thread of `Threads.Machine`: inside
`startAsync`, `stop` and the destructors it takes the steps of `Sys.ctrl`, and around
them the run loop, the RPCs and the signals take theirs.

`Main.Holds` says what holds at every point of `main`. The process starts its controller
once, so what goes wrong between starts does not arise: `serves_until_signal` says that
while `run` polls the whole stack is up, and that only a signal ends it. `exits_clean` is
about the end: every RPC that was let in has been answered as the configuration says,
and no server, client or run loop is left.
-/

namespace SensorCore.App

open SensorCore.Lib SensorCore.Config SensorCore.Clients SensorCore.Api SensorCore.Threads

inductive ExitCode where
  | success
  | failure
  deriving DecidableEq, Repr

/-- Where `main` is. -/
inductive Main where
  | initializing
  /-- In `Application::start`. -/
  | starting
  -- the loop of `Application::run`
  | pollingController
  | pollingSignal
  | sleeping
  /-- In `Application::stop`. -/
  | stopping
  -- the destructors, in the order in which they run
  | destroyingController (code : ExitCode)
  | joiningService (code : ExitCode)
  | destroyingTransport (code : ExitCode)
  | destroyingServer (code : ExitCode)
  | drainingServer (code : ExitCode)
  | destroyingHandler (code : ExitCode)
  | destroyingCore (code : ExitCode)
  | destroyingManager (code : ExitCode)
  | exited (code : ExitCode)
  /-- An exception left a destructor. -/
  | aborted
  deriving DecidableEq, Repr

structure Process where
  main : Main
  sys : Sys
  shutdownRequested : Bool

namespace Process

def init : Process := ⟨.initializing, .init, false⟩

def Alive (p : Process) : Prop := p.main ≠ .aborted ∧ ∀ code, p.main ≠ .exited code

instance (p : Process) : Decidable p.Alive :=
  match h : p.main with
  | .exited code => isFalse fun alive => alive.2 code h
  | .aborted => isFalse fun alive => alive.1 h
  | .initializing | .starting | .pollingController | .pollingSignal | .sleeping | .stopping
  | .destroyingController _ | .joiningService _ | .destroyingTransport _ | .destroyingServer _
  | .drainingServer _ | .destroyingHandler _ | .destroyingCore _ | .destroyingManager _ =>
      isTrue ⟨by simp [h], by simp [h]⟩

/-- Go on in a call of the controlling thread; where the call is at its end, `returned`
says what comes next. An exception that leaves the destructor of the client manager
ends the process. -/
def call (config : InfrastructureConfig) (w : World) (p : Process) (ended : Phase → Bool)
    (returned : Sys → Main × Phase) : Option Process :=
  match p.sys.ctrl config w with
  | some s =>
      if ended s.phase then
        some { p with main := (returned s).1, sys := { s with phase := (returned s).2 } }
      else some { p with sys := s }
  | none =>
      if p.sys.phase = .newManager ∨ p.sys.phase = .managerReset then
        some { p with main := .aborted }
      else none

def reached (target phase : Phase) : Bool := phase = target

/-- The next step of `main`. `booted` is the result of `Application::initialize`. -/
def next (booted : Bool) (config : InfrastructureConfig) (w : World) (p : Process) :
    Option Process :=
  match p.main with
  | .initializing =>
      some (if booted then
        { p with main := .starting, sys := { p.sys with phase := .coreTest } }
      else { p with main := .exited .failure })
  | .starting =>
      p.call config w (reached .idle) fun s =>
        if s.started.isSome then (.pollingController, .idle)
        else (.destroyingController .failure, .apiTest)
  | .pollingController =>
      some (if p.sys.isRunning then { p with main := .pollingSignal }
        else { p with main := .stopping, sys := { p.sys with phase := .apiTest } })
  | .pollingSignal =>
      some (if p.shutdownRequested then
        { p with main := .stopping, sys := { p.sys with phase := .apiTest } }
      else { p with main := .sleeping })
  | .sleeping => some { p with main := .pollingController }
  | .stopping =>
      -- `stop` fails where the shutdown of the clients throws
      p.call config w (reached .idle) fun _ =>
        (.destroyingController (if p.sys.phase = .clear then .failure else .success), .apiTest)
  | .destroyingController code => p.call config w (reached .idle) fun _ => (.joiningService code, .idle)
  | .joiningService code =>
      if p.sys.joinable then
        some { p with
          main := .destroyingTransport code, sys := { p.sys with phase := .transportTest } }
      else none
  | .destroyingTransport code =>
      p.call config w (reached .handlerTest) fun _ => (.destroyingServer code, .handlerTest)
  | .destroyingServer code =>
      some { p with
        main := .drainingServer code
        sys := { p.sys with shut := p.sys.transport.server.toList ++ p.sys.shut } }
  | .drainingServer code =>
      if p.sys.Serves then none
      else some { p with
        main := .destroyingHandler code
        sys := { p.sys with transport := { p.sys.transport with server := none } } }
  | .destroyingHandler code =>
      p.call config w (reached .idle) fun _ => (.destroyingCore code, .coreStopTest)
  | .destroyingCore code => p.call config w (reached .idle) fun _ => (.destroyingManager code, .idle)
  | .destroyingManager code =>
      some (if Core.survivesDestructor w.shutdown p.sys.clientManager then
        { p with main := .exited code, sys := { p.sys with clientManager := none } }
      else { p with main := .aborted })
  | .exited _ | .aborted => none

end Process

inductive Event where
  | main (w : World)
  /-- `SIGTERM` or `SIGINT`. -/
  | signal
  | loop (i : Nat)
  | accept (server : Server) (service : Service) (cameraId : UInt32)
  | rpc (i : Nat)

/-- The step of another thread. -/
def Event.other : Event → Option Label
  | .loop i => some (.loop i)
  | .accept server service cameraId => some (.accept server service cameraId)
  | .rpc i => some (.rpc i)
  | .main _ | .signal => none

def process (booted : Bool) (config : InfrastructureConfig) : Machine Process Event where
  init := .init
  step
    | .main w, p => p.next booted config w
    | .signal, p => if p.Alive then some { p with shutdownRequested := true } else none
    | .loop i, p =>
        if p.Alive then ((Threads.machine config).step (.loop i) p.sys).map ({ p with sys := · })
        else none
    | .accept server service cameraId, p =>
        if p.Alive then
          ((Threads.machine config).step (.accept server service cameraId) p.sys).map
            ({ p with sys := · })
        else none
    | .rpc i, p =>
        if p.Alive then ((Threads.machine config).step (.rpc i) p.sys).map ({ p with sys := · })
        else none

/-- A step is one of `main`, a signal, or one of another thread. -/
theorem process_cases {booted : Bool} {config : InfrastructureConfig} {e : Event}
    {p p' : Process} (ran : (process booted config).step e p = some p') :
    (∃ w, e = .main w ∧ p.next booted config w = some p') ∨
    (e = .signal ∧ p.Alive ∧ p' = { p with shutdownRequested := true }) ∨
    (∃ l s, e.other = some l ∧ p.Alive ∧ (Threads.machine config).step l p.sys = some s ∧
      p' = { p with sys := s }) := by
  cases e with
  | main w => exact .inl ⟨w, rfl, ran⟩
  | signal =>
      simp only [process] at ran
      split at ran
      · rename_i alive
        cases ran
        exact .inr (.inl ⟨rfl, alive, rfl⟩)
      · cases ran
  | loop i | accept server service cameraId | rpc i =>
      simp only [process] at ran
      split at ran
      · rename_i alive
        obtain ⟨s, step, rfl⟩ := Option.map_eq_some_iff.mp ran
        exact .inr (.inr ⟨_, s, rfl, alive, step, rfl⟩)
      · cases ran

/-! ### What holds of the threads throughout -/

/-- The invariants of the machine of threads, as far as they hold in any process. -/
structure Consistent (config : InfrastructureConfig) (s : Sys) : Prop where
  orderly : s.Orderly
  threaded : s.Threaded
  stocked : s.Stocked config
  answered : ∀ r ∈ s.rpcs, r.Answered config

variable {config : InfrastructureConfig} {s s' : Sys}

theorem consistent_init : Consistent config .init :=
  ⟨.init, .init, Sys.stocked_init config, fun _ mem => absurd mem List.not_mem_nil⟩

theorem Consistent.step {l : Label} (c : Consistent config s)
    (ran : (Threads.machine config).step l s = some s') : Consistent config s' where
  orderly := Sys.orderly_step c.orderly ran
  threaded := Sys.threaded_step c.orderly c.threaded ran
  stocked := Sys.stocked_step c.orderly c.stocked ran
  answered := answered_step c.orderly c.stocked c.answered ran

theorem Consistent.ctrl {w : World} (c : Consistent config s)
    (ran : s.ctrl config w = some s') : Consistent config s' :=
  c.step (l := .ctrl w) ran

/-- `main` enters a stop, or the part of one that is left. -/
theorem Consistent.enter (c : Consistent config s) {phase : Phase}
    (from_ : s.phase = .idle ∨ s.phase = .handlerTest) (ok : s.PhaseOk phase)
    (stop : phase.level ≤ 4 ∧ phase ≠ .serverReset) :
    Consistent config { s with phase } := by
  have unfilled : phase ≠ .fillManager ∧ phase.filled = false ∧ ∀ i, phase ≠ .join i := by
    obtain ⟨low, -⟩ := stop
    cases phase <;> simp [Phase.level, Phase.filled] at low ⊢
  obtain ⟨unfilling, empty, unjoined⟩ := unfilled
  have left : s.phase ≠ .shutdownReturn ∧ ∀ i, s.phase ≠ .join i := by
    rcases from_ with at_ | at_ <;> rw [at_] <;> simp
  refine ⟨c.orderly.advance rfl rfl rfl rfl left.1 ok, ?_, ?_, c.answered⟩
  · refine ⟨fun at_ => absurd at_ unfilling, fun at_ => absurd at_ stop.2, c.threaded.joined,
      fun i at_ => absurd at_ (unjoined i), ?_, c.threaded.waiting, c.threaded.fresh⟩
    intro i l at_
    rcases c.threaded.single i l at_ with done | thread | join
    · exact .inl done
    · exact .inr (.inl thread)
    · exact absurd join (left.2 i)
  · refine ⟨fun at_ => absurd at_ unfilling, fun at_ => ?_, c.stocked.busy⟩
    rw [empty] at at_
    cases at_

/-- With nothing in flight, `~Server` can shut the server down. -/
theorem Consistent.shutServer (c : Consistent config s) (at_ : s.phase = .handlerTest) :
    Consistent config { s with shut := s.transport.server.toList ++ s.shut } := by
  have quiet := c.orderly.phase
  rw [at_] at quiet
  have still : ∀ server, Sys.Accepts { s with shut := s.transport.server.toList ++ s.shut }
      server → s.Accepts server :=
    fun server accepts => ⟨accepts.1, fun shut => accepts.2 (List.mem_append_right _ shut)⟩
  have calm : ¬ Sys.Busy { s with shut := s.transport.server.toList ++ s.shut } := by
    rintro (⟨server, accepts⟩ | flying)
    · exact quiet (.inl ⟨server, still server accepts⟩)
    · exact quiet (.inr flying)
  refine ⟨⟨fun server accepts => c.orderly.accepts server (still server accepts),
    fun r mem flying => absurd (.inr ⟨r, mem, flying⟩) quiet, ?_, c.orderly.served⟩, ?_, ?_,
    c.answered⟩
  · rw [at_]
    exact calm
  · refine ⟨c.threaded.filling, ?_, c.threaded.joined, c.threaded.joining, c.threaded.single, ?_, ?_⟩
    · intro reset
      rw [at_] at reset
      cases reset
    · intro n mem
      rcases c.threaded.waiting n mem with shut | current
      · exact .inl (List.mem_append_right _ shut)
      · exact .inr current
    · intro n known
      simp only [List.mem_append, Option.mem_toList] at known
      rcases known with (current | shut) | current
      · exact c.threaded.fresh n (.inr current)
      · exact c.threaded.fresh n (.inl shut)
      · exact c.threaded.fresh n (.inr current)
  · exact ⟨c.stocked.filling, c.stocked.filled, fun busy => absurd busy calm⟩

/-- The server is destroyed once it is shut down. -/
theorem Consistent.dropServer (c : Consistent config s) (at_ : s.phase = .handlerTest)
    (shut : ∀ n, s.transport.server = some n → n ∈ s.shut) :
    Consistent config { s with transport := { s.transport with server := none } } := by
  have quiet := c.orderly.phase
  rw [at_] at quiet
  refine ⟨⟨fun server accepts => absurd (.inl ⟨server, accepts⟩) quiet,
    fun r mem flying => absurd (.inr ⟨r, mem, flying⟩) quiet, ?_, c.orderly.served⟩, ?_, ?_,
    c.answered⟩
  · rw [at_]
    exact quiet
  · refine ⟨c.threaded.filling, fun _ n current => absurd current (by simp), c.threaded.joined,
      c.threaded.joining, c.threaded.single, ?_, ?_⟩
    · intro n mem
      left
      rcases c.threaded.waiting n mem with gone | current
      · exact gone
      · exact shut n current
    · intro n known
      rcases known with gone | current
      · exact c.threaded.fresh n (.inl gone)
      · cases current
  · exact ⟨c.stocked.filling, c.stocked.filled, fun busy => absurd busy quiet⟩

/-- The last manager is destroyed where no server is. -/
theorem Consistent.dropManager (c : Consistent config s) (at_ : s.phase = .idle)
    (gone : s.transport.server = none) : Consistent config { s with clientManager := none } := by
  have quiet := c.orderly.not_busy gone
  refine ⟨⟨c.orderly.accepts, c.orderly.inFlight, ?_, c.orderly.served⟩, ?_, ?_, c.answered⟩
  · rw [at_]
    exact fun busy => absurd busy quiet
  · refine ⟨fun filling => ?_, c.threaded.resetting, c.threaded.joined, c.threaded.joining,
      c.threaded.single, c.threaded.waiting, c.threaded.fresh⟩
    rw [at_] at filling
    cases filling
  · refine ⟨fun filling => ?_, fun filled => ?_, fun busy => absurd busy quiet⟩
    · rw [at_] at filling
      cases filling
    · rw [at_] at filled
      cases filled

/-! ### Where `main` is -/

/-- What holds at each point of `main`. -/
def Main.Holds (s : Sys) : Main → Prop
  | .initializing => s = .init
  | .starting => s.phase ≠ .idle ∧ s.Starting
  | .pollingController | .pollingSignal | .sleeping => s.Running
  | .stopping => s.Stopping
  | .destroyingController _ => s.phase = .apiTest ∧ s.Down
  | .joiningService _ => s.phase = .idle ∧ s.Down
  | .destroyingTransport _ => s.phase.level = 3 ∧ s.Down ∧ s.Ended
  | .destroyingServer _ => s.phase = .handlerTest ∧ s.Ended
  | .drainingServer _ => s.phase = .handlerTest ∧ s.Ended ∧
      ∀ n, s.transport.server = some n → n ∈ s.shut
  | .destroyingHandler _ => (s.phase.level = 2 ∨ s.phase.level = 1) ∧ s.Ended ∧
      s.transport.server = none
  | .destroyingCore _ => s.phase.level = 1 ∧ s.Ended ∧ s.transport.server = none
  | .destroyingManager _ => s.phase = .idle ∧ s.Ended ∧ s.transport.server = none
  | .exited _ => s.phase = .idle ∧ s.Ended ∧ s.transport.server = none ∧ s.clientManager = none
  | .aborted => True

/-- The points that `main` gets to through a signal only. -/
def Main.Asked : Main → Prop
  | .stopping => True
  | .destroyingController code | .joiningService code | .destroyingTransport code
  | .destroyingServer code | .drainingServer code | .destroyingHandler code
  | .destroyingCore code | .destroyingManager code | .exited code => code = .success
  | .initializing | .starting | .pollingController | .pollingSignal | .sleeping | .aborted => False

/-- The invariant of the process. -/
structure Sound (config : InfrastructureConfig) (p : Process) : Prop where
  consistent : Consistent config p.sys
  holds : p.main.Holds p.sys
  asked : p.main.Asked → p.shutdownRequested = true

theorem Main.Holds.other {l : Label} {m : Main} (h : m.Holds s) (other : Sys.Other l)
    (ran : (Threads.machine config).step l s = some s') : m.Holds s' := by
  have kept : s'.phase = s.phase ∧ s'.transport = s.transport ∧ s'.shut = s.shut ∧
      s'.clientManager = s.clientManager := by
    rcases Sys.other_cases other ran with ⟨_, _, _, _, -, -, rfl⟩ | ⟨_, rfl⟩ <;>
      exact ⟨rfl, rfl, rfl, rfl⟩
  obtain ⟨phase, transport, shut, manager⟩ := kept
  cases m with
  | initializing =>
      have stuck : (Threads.machine config).step l .init = none := by
        cases l with
        | loop i | rpc i => rfl
        | accept server service cameraId => simp [Threads.machine, Sys.Accepts, Sys.init]
        | startAsync | stop | ctrl w => exact other.elim
      rw [h, stuck] at ran
      cases ran
  | starting => exact ⟨phase ▸ h.1, h.2.other other ran⟩
  | pollingController | pollingSignal | sleeping => exact Sys.Running.other h other ran
  | stopping => exact Sys.Stopping.other h other ran
  | destroyingController code | joiningService code => exact ⟨phase ▸ h.1, h.2.other other ran⟩
  | destroyingTransport code =>
      exact ⟨phase ▸ h.1, h.2.1.other other ran, h.2.2.other other ran⟩
  | destroyingServer code => exact ⟨phase ▸ h.1, h.2.other other ran⟩
  | drainingServer code =>
      refine ⟨phase ▸ h.1, h.2.1.other other ran, ?_⟩
      rw [transport, shut]
      exact h.2.2
  | destroyingHandler code | destroyingCore code | destroyingManager code =>
      refine ⟨phase ▸ h.1, h.2.1.other other ran, ?_⟩
      rw [transport]
      exact h.2.2
  | exited code =>
      refine ⟨phase ▸ h.1, h.2.1.other other ran, ?_⟩
      rw [transport, manager]
      exact h.2.2
  | aborted => trivial

theorem Process.reached_iff {target phase : Phase} :
    Process.reached target phase = true ↔ phase = target := by
  simp [Process.reached]

theorem Process.reached_eq_false_iff {target phase : Phase} :
    Process.reached target phase = false ↔ phase ≠ target := by
  simp [Process.reached]

section Steps

variable {w : World} {main : Main} {requested : Bool} {p' : Process}

/-- A step inside a call: the call ends, it goes on, or the process ends in it. -/
theorem sound_call {ended : Phase → Bool} {returned : Sys → Main × Phase}
    (c : Consistent config s) (asked : main.Asked → requested = true)
    (ends : ∀ s', s.ctrl config w = some s' → Consistent config s' → ended s'.phase = true →
      Sound config ⟨(returned s').1, { s' with phase := (returned s').2 }, requested⟩)
    (goes : ∀ s', s.ctrl config w = some s' → ended s'.phase = false → main.Holds s')
    (ran : Process.call config w ⟨main, s, requested⟩ ended returned = some p') :
    Sound config p' := by
  unfold Process.call at ran
  split at ran
  · rename_i s' stepped
    split at ran
    · rename_i done
      cases ran
      exact ends s' stepped (c.ctrl stepped) done
    · rename_i undone
      cases ran
      exact ⟨c.ctrl stepped, goes s' stepped (Bool.eq_false_iff.mpr undone), asked⟩
  · split at ran
    · cases ran
      exact ⟨c, trivial, fun asked => asked.elim⟩
    · cases ran

/-- Between two calls the phase can be written as it is. -/
theorem Consistent.still (c : Consistent config s) {phase : Phase} (at_ : s.phase = phase) :
    Consistent config { s with phase } := by
  subst at_
  exact c

/-- `main` enters a stop from the end of a call. -/
theorem Consistent.stop (c : Consistent config s) (at_ : s.phase = .idle) :
    Consistent config { s with phase := .apiTest } := by
  have ok := c.orderly.phase
  rw [at_] at ok
  have ok' : s.PhaseOk .apiTest := ok
  exact c.enter (.inl at_) ok' (by simp [Phase.level])

theorem sound_starting (c : Consistent config s) (h : s.phase ≠ .idle ∧ s.Starting)
    (ran : Process.next true config w ⟨.starting, s, requested⟩ = some p') : Sound config p' := by
  have unasked : Main.Asked .starting → requested = true := False.elim
  have unsuccessful : ExitCode.failure = .success → requested = true := by simp
  refine sound_call c unasked ?_ ?_ ran
  · intro s' step c' done
    have idle := Process.reached_iff.mp done
    rcases h.2.ctrl c.orderly c.threaded step with ⟨other, -⟩ | ⟨-, started, running⟩ |
      ⟨-, failed, down⟩
    · exact absurd idle other
    · rw [if_pos started]
      exact ⟨c'.still idle, ⟨rfl, running.thread, running.loops, running.safe.congr rfl rfl rfl,
        running.server⟩, fun asked => asked.elim⟩
    · rw [if_neg (by simp [failed])]
      exact ⟨c'.stop idle, ⟨rfl, down.flag, down.threads⟩, unsuccessful⟩
  · intro s' step undone
    have calling := Process.reached_eq_false_iff.mp undone
    rcases h.2.ctrl c.orderly c.threaded step with ⟨-, on⟩ | ⟨idle, -⟩ | ⟨idle, -⟩
    · exact ⟨calling, on⟩
    · exact absurd idle calling
    · exact absurd idle calling

theorem sound_stopping (c : Consistent config s) (h : s.Stopping) (signalled : requested = true)
    (ran : Process.next true config w ⟨.stopping, s, requested⟩ = some p') : Sound config p' := by
  refine sound_call c (fun _ => signalled) ?_ ?_ ran
  · intro s' step c' done
    have idle := Process.reached_iff.mp done
    rcases h.ctrl step with ⟨other, -⟩ | ⟨-, down⟩
    · exact absurd idle other
    · exact ⟨c'.stop idle, ⟨rfl, down.flag, down.threads⟩, fun _ => signalled⟩
  · intro s' step undone
    have calling := Process.reached_eq_false_iff.mp undone
    rcases h.ctrl step with ⟨-, on⟩ | ⟨idle, -⟩
    · exact on
    · exact absurd idle calling

/-- With the flag down, the stop in `~ApiController` returns at once. -/
theorem sound_destroyingController {code : ExitCode} (c : Consistent config s)
    (h : s.phase = .apiTest ∧ s.Down) (asked : code = .success → requested = true)
    (ran : Process.next true config w ⟨.destroyingController code, s, requested⟩ = some p') :
    Sound config p' := by
  obtain ⟨at_, down⟩ := h
  have low : s.phase.level ≤ 4 := by simp [at_, Phase.level]
  have askedNow : Main.Asked (.destroyingController code) → requested = true := asked
  refine sound_call c askedNow ?_ ?_ ran
  · intro s' step c' done
    have down' := down.ctrl low step
    exact ⟨c'.still (Process.reached_iff.mp done), ⟨rfl, down'.flag, down'.threads⟩, asked⟩
  · intro s' step undone
    simp only [Sys.ctrl, at_, down.flag, Bool.false_eq_true, if_false, Option.some.injEq] at step
    exact absurd (congrArg Sys.phase step).symm (Process.reached_eq_false_iff.mp undone)

theorem sound_destroyingTransport {code : ExitCode} (c : Consistent config s)
    (h : s.phase.level = 3 ∧ s.Down ∧ s.Ended) (asked : code = .success → requested = true)
    (ran : Process.next true config w ⟨.destroyingTransport code, s, requested⟩ = some p') :
    Sound config p' := by
  obtain ⟨at_, down, ended⟩ := h
  have low : s.phase.level ≤ 4 := by omega
  have askedNow : Main.Asked (.destroyingTransport code) → requested = true := asked
  refine sound_call c askedNow ?_ ?_ ran
  · intro s' step c' done
    have ended' := ended.ctrl low step
    exact ⟨c'.still (Process.reached_iff.mp done), ⟨rfl, ended'⟩, asked⟩
  · intro s' step undone
    have elsewhere := Process.reached_eq_false_iff.mp undone
    refine ⟨?_, down.ctrl low step, ended.ctrl low step⟩
    rcases Sys.ctrl_level step with ⟨above, -⟩ | same | ⟨-, handler⟩ | ⟨lower, -⟩ | ⟨lower, -⟩
    · exact absurd at_ above
    · exact same.trans at_
    · exact absurd handler elsewhere
    · rw [lower] at at_
      exact absurd at_ (by simp [Phase.level])
    · rw [lower] at at_
      exact absurd at_ (by simp [Phase.level])

theorem sound_destroyingHandler {code : ExitCode} (c : Consistent config s)
    (h : (s.phase.level = 2 ∨ s.phase.level = 1) ∧ s.Ended ∧ s.transport.server = none)
    (asked : code = .success → requested = true)
    (ran : Process.next true config w ⟨.destroyingHandler code, s, requested⟩ = some p') :
    Sound config p' := by
  obtain ⟨at_, ended, gone⟩ := h
  have low : s.phase.level ≤ 4 := by omega
  have askedNow : Main.Asked (.destroyingHandler code) → requested = true := asked
  refine sound_call c askedNow ?_ ?_ ran
  · intro s' step c' done
    have gone' := (Sys.ctrl_below low step).2.2 gone
    have ended' := ended.ctrl low step
    have quiet : s'.PhaseOk .coreStopTest := c'.orderly.not_busy gone'
    exact ⟨c'.enter (.inl (Process.reached_iff.mp done)) quiet (by simp [Phase.level]),
      ⟨rfl, ended', gone'⟩, asked⟩
  · intro s' step undone
    refine ⟨?_, ended.ctrl low step, (Sys.ctrl_below low step).2.2 gone⟩
    rcases Sys.ctrl_level step with ⟨-, idle⟩ | same | ⟨high, -⟩ | ⟨lower, -⟩ | ⟨-, core⟩
    · exact absurd idle (Process.reached_eq_false_iff.mp undone)
    · rw [same]
      exact at_
    · omega
    · rw [lower] at at_
      exact absurd at_ (by simp [Phase.level])
    · rw [core]
      exact .inr rfl

theorem sound_destroyingCore {code : ExitCode} (c : Consistent config s)
    (h : s.phase.level = 1 ∧ s.Ended ∧ s.transport.server = none)
    (asked : code = .success → requested = true)
    (ran : Process.next true config w ⟨.destroyingCore code, s, requested⟩ = some p') :
    Sound config p' := by
  obtain ⟨at_, ended, gone⟩ := h
  have low : s.phase.level ≤ 4 := by omega
  have askedNow : Main.Asked (.destroyingCore code) → requested = true := asked
  refine sound_call c askedNow ?_ ?_ ran
  · intro s' step c' done
    have gone' := (Sys.ctrl_below low step).2.2 gone
    have ended' := ended.ctrl low step
    exact ⟨c'.still (Process.reached_iff.mp done), ⟨rfl, ended', gone'⟩, asked⟩
  · intro s' step undone
    refine ⟨?_, ended.ctrl low step, (Sys.ctrl_below low step).2.2 gone⟩
    rcases Sys.ctrl_level step with ⟨-, idle⟩ | same | ⟨high, -⟩ | ⟨lower, -⟩ | ⟨lower, -⟩
    · exact absurd idle (Process.reached_eq_false_iff.mp undone)
    · exact same.trans at_
    · omega
    · rw [lower] at at_
      exact absurd at_ (by simp [Phase.level])
    · rw [lower] at at_
      exact absurd at_ (by simp [Phase.level])

/-- `main` keeps the process sound. -/
theorem sound_next {booted : Bool} {p : Process} (sound : Sound config p)
    (ran : p.next booted config w = some p') : Sound config p' := by
  obtain ⟨main, s, requested⟩ := p
  obtain ⟨c, holds, asked⟩ := sound
  cases main with
  | initializing =>
      obtain rfl : s = .init := holds
      cases booted with
      | true =>
          cases ran
          refine ⟨c.step (l := .startAsync) rfl, ⟨by simp, ?_⟩, False.elim⟩
          exact ⟨.inl rfl, rfl, .inr ⟨by simp, rfl⟩, by simp [Sys.init], by simp,
            by simp [Phase.opening]⟩
      | false =>
          have unsuccessful : ExitCode.failure = .success → requested = true := by simp
          cases ran
          exact ⟨c, ⟨rfl, fun _ mem => absurd mem List.not_mem_nil, rfl, rfl⟩, unsuccessful⟩
  | starting => exact sound_starting c holds ran
  | pollingController =>
      have raised : s.isRunning = true := (Sys.Running.safe holds).raised
      simp only [Process.next, raised, if_true, Option.some.injEq] at ran
      subst ran
      exact ⟨c, holds, False.elim⟩
  | pollingSignal =>
      have idle : s.phase = .idle := Sys.Running.idle holds
      cases requested with
      | true =>
          cases ran
          exact ⟨c.stop idle, Sys.Running.stops holds, fun _ => rfl⟩
      | false =>
          cases ran
          exact ⟨c, holds, False.elim⟩
  | sleeping =>
      cases ran
      exact ⟨c, holds, False.elim⟩
  | stopping => exact sound_stopping c holds (asked trivial) ran
  | destroyingController code => exact sound_destroyingController c holds asked ran
  | joiningService code =>
      obtain ⟨at_, down⟩ := holds
      have ok := c.orderly.phase
      simp only at at_ ok
      rw [at_] at ok
      have ok' : s.PhaseOk .transportTest := ok
      simp only [Process.next] at ran
      split at ran
      · rename_i joinable
        cases ran
        exact ⟨c.enter (.inl at_) ok' (by simp [Phase.level]),
          ⟨rfl, ⟨down.flag, down.threads⟩, down.ended joinable⟩, asked⟩
      · cases ran
  | destroyingTransport code => exact sound_destroyingTransport c holds asked ran
  | destroyingServer code =>
      obtain ⟨at_, ended⟩ := holds
      cases ran
      refine ⟨c.shutServer at_, ⟨at_, ended, ?_⟩, asked⟩
      intro n current
      simp only [List.mem_append, Option.mem_toList]
      exact .inl current
  | drainingServer code =>
      obtain ⟨at_, ended, shut⟩ := holds
      simp only [Process.next] at ran
      split at ran
      · cases ran
      · cases ran
        exact ⟨c.dropServer at_ shut, ⟨.inl (congrArg Phase.level at_), ended, rfl⟩, asked⟩
  | destroyingHandler code => exact sound_destroyingHandler c holds asked ran
  | destroyingCore code => exact sound_destroyingCore c holds asked ran
  | destroyingManager code =>
      obtain ⟨at_, ended, gone⟩ := holds
      simp only [Process.next, Option.some.injEq] at ran
      split at ran
      · subst ran
        exact ⟨c.dropManager at_ gone, ⟨at_, ended, gone, rfl⟩, asked⟩
      · subst ran
        exact ⟨c, trivial, False.elim⟩
  | exited code => cases ran
  | aborted => cases ran

end Steps

/-- Every step keeps the process sound. -/
theorem sound_step {booted : Bool} {e : Event} {p p' : Process} (sound : Sound config p)
    (ran : (process booted config).step e p = some p') : Sound config p' := by
  rcases process_cases ran with ⟨w, -, next⟩ | ⟨-, -, rfl⟩ | ⟨l, s, other, -, step, rfl⟩
  · exact sound_next sound next
  · exact ⟨sound.consistent, sound.holds, fun _ => rfl⟩
  · have aside : Sys.Other l := by
      cases e <;> cases other <;> trivial
    exact ⟨sound.consistent.step step, sound.holds.other aside step, sound.asked⟩

theorem sound_of_reach {booted : Bool} {p : Process}
    (reach : (process booted config).Reach p) : Sound config p :=
  reach.invariant ⟨consistent_init, rfl, False.elim⟩ fun _ _ _ sound _ ran => sound_step sound ran

/-! ### What the process does -/

/-- The loop of `run`. -/
def Main.Polls : Main → Prop
  | .pollingController | .pollingSignal | .sleeping => True
  | _ => False

/-- The whole stack is up: its server takes RPCs, and the client manager routes them as
the configuration says. -/
structure Serving (config : InfrastructureConfig) (s : Sys) : Prop where
  controller : s.isRunning = true
  handler : s.handlerRunning = true
  core : s.coreRunning = true
  transport : s.transport.isRunning = true
  server : ∃ server, s.transport.server = some server ∧ s.Accepts server
  manager : s.Managed config

theorem Consistent.serving (c : Consistent config s) (h : s.Running) : Serving config s := by
  obtain ⟨server, live, accepts⟩ := h.server
  have busy : s.Busy := .inl ⟨server, accepts⟩
  obtain ⟨handler, core, -⟩ := c.orderly.phase.up busy
  exact ⟨h.safe.raised, handler, core, by rw [live], ⟨server, by rw [live], accepts⟩,
    c.stocked.busy busy⟩

theorem Sound.serving {p : Process} (sound : Sound config p) (polls : p.main.Polls) :
    Serving config p.sys := by
  have holds := sound.holds
  cases at_ : p.main <;> rw [at_] at polls holds
  case pollingController | pollingSignal | sleeping => exact sound.consistent.serving holds
  all_goals exact polls.elim

/-- As long as `run` polls, the whole stack is up; and only a signal gets `main` out of
`run`, or to a successful exit. -/
theorem serves_until_signal {booted : Bool} {p : Process}
    (reach : (process booted config).Reach p) :
    (p.main.Polls → Serving config p.sys) ∧ (p.main.Asked → p.shutdownRequested = true) := by
  have sound := sound_of_reach reach
  exact ⟨sound.serving, sound.asked⟩

/-- The start, once around the loop of `run`, and an RPC on its way. -/
def pollingRun : List Event :=
  List.replicate 16 (Event.main .fine) ++ [Event.accept 0 .video 1, .rpc 0, .loop 0]

theorem serves_until_signal_pollingRun :
    ∃ p, (process true Core.pairedConfig).exec pollingRun .init = some p ∧
      (p.main, p.sys.loops) = (.pollingSignal, [.tested]) ∧ Serving Core.pairedConfig p.sys := by
  have ends : ((process true Core.pairedConfig).exec pollingRun .init).map
      (fun p => (p.main, p.sys.loops)) = some (.pollingSignal, [.tested]) := rfl
  obtain ⟨p, ran, seen⟩ := Option.map_eq_some_iff.mp ends
  have polls : p.main.Polls := by
    rw [(Prod.mk.inj seen).1]
    trivial
  exact ⟨p, ran, seen, (serves_until_signal (.of_exec .init (fun _ _ => trivial) ran)).1 polls⟩

/-- A process that has exited, with any code, has left nothing: no server takes RPCs,
every RPC that was let in has been answered as the configuration says, the run loops
have ended, and the clients are gone. -/
theorem exits_clean {booted : Bool} {p : Process} {code : ExitCode}
    (reach : (process booted config).Reach p) (exited : p.main = .exited code) :
    (∀ server, ¬ p.sys.Accepts server) ∧
      (∀ r ∈ p.sys.rpcs, r.stage = .finished (answer config r.service r.cameraId)) ∧
      (∀ l ∈ p.sys.loops, l = .finished ∨ l = .stored) ∧
      p.sys.clientManager = none ∧ p.sys.transport.server = none := by
  obtain ⟨c, holds, -⟩ := sound_of_reach reach
  rw [exited] at holds
  obtain ⟨-, ended, gone, cleared⟩ := holds
  have quiet := c.orderly.not_busy gone
  refine ⟨fun server accepts => quiet (.inl ⟨server, accepts⟩), ?_, ended, cleared, gone⟩
  intro r mem
  have done : ¬ r.InFlight := fun flying => quiet (.inr ⟨r, mem, flying⟩)
  simp only [Rpc.InFlight, ne_eq, not_forall, not_not] at done
  obtain ⟨outcome, finished⟩ := done
  rw [finished, (c.answered r mem).2 outcome finished]

/-- A start, an RPC that is on its way when the signal comes, and the stop; the shutdown
of the clients throws, so `stop` fails. The destructors of the core and of the client
manager clear the rest. -/
def interruptedRun : List Event :=
  List.replicate 14 (Event.main .fine) ++ [Event.accept 0 .camera 1, .rpc 0, .rpc 0, .signal] ++
    [Event.main .fine, .main .fine, .main .fine] ++ [Event.loop 0, .loop 0] ++
    List.replicate 5 (Event.main .fine) ++ [Event.rpc 0, .rpc 0, .loop 0] ++
    List.replicate 6 (Event.main .fine) ++
    [Event.main { World.fine with shutdown := ⟨none, some (.channels, "GetState failed")⟩ }] ++
    List.replicate 11 (Event.main .fine)

theorem exits_clean_interruptedRun :
    ∃ p, (process true Core.pairedConfig).exec interruptedRun .init = some p ∧
      p.main = .exited .failure ∧ p.sys.rpcs.map Rpc.stage = [.finished .called] ∧
      (∀ l ∈ p.sys.loops, l = .finished ∨ l = .stored) ∧ p.sys.clientManager = none := by
  have ends : ((process true Core.pairedConfig).exec interruptedRun .init).map
      (fun p => (p.main, p.sys.rpcs.map Rpc.stage)) =
        some (.exited .failure, [.finished .called]) := rfl
  obtain ⟨p, ran, seen⟩ := Option.map_eq_some_iff.mp ends
  obtain ⟨main, stages⟩ := Prod.mk.inj seen
  obtain ⟨-, -, loops, manager, -⟩ :=
    exits_clean (.of_exec .init (fun _ _ => trivial) ran) main
  exact ⟨p, ran, main, stages, loops, manager⟩

end SensorCore.App
