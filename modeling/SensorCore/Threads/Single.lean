import SensorCore.Threads.Progress

/-!
The stack in the hands of a process that starts it once.

`Starting`, `Running`, `Stopping` and `Down` say how the shared state looks during the
only start, while the stack serves, during a stop and after it. The controlling thread
leads from one to the next (`Starting.ctrl`, `Stopping.ctrl`, `Down.ctrl`), and the other
threads keep each of them (`Starting.other` and so on). After a successful start the flag
is up and stays up; after a stop, or a start that failed, the server is gone or was never
used, and a run loop that is joined has ended.
-/

namespace SensorCore.Threads

open SensorCore.Lib SensorCore.Config SensorCore.Clients SensorCore.Api

/-- How deep in a stop a phase is: the controller, the transport, the handler, the core;
above them the phases of a start. -/
def Phase.level : Phase → Nat
  | .idle => 0
  | .coreStopTest | .clear | .managerReset | .coreLower => 1
  | .handlerTest | .handlerLower => 2
  | .transportTest | .serverTest | .shutdownCall | .shutdownReturn | .serverReset
  | .transportLower => 3
  | .apiTest | .apiLower => 4
  | .coreTest | .newManager | .fillManager | .cleanup | .coreRaise | .handlerRaise | .build
  | .buildTest _ | .transportRaise | .apiRaise | .spawn | .join _ => 5

variable {config : InfrastructureConfig} {s s' : Sys}

namespace Sys

/-- A step stays on its level, goes down to the next one or to a rollback, or returns. -/
theorem ctrl_level {w : World} (ran : s.ctrl config w = some s') :
    (s.phase.level ≠ 3 ∧ s'.phase = .idle) ∨ s'.phase.level = s.phase.level ∨
      (3 ≤ s.phase.level ∧ s'.phase = .handlerTest) ∨
      (s.phase = .apiLower ∧ s'.phase = .transportTest) ∨
      (s.phase = .handlerLower ∧ s'.phase = .coreStopTest) := by
  cases h : s.phase <;> simp only [ctrl, h] at ran
  case idle => cases ran
  case coreTest | apiTest | handlerTest | coreStopTest | buildTest =>
    split at ran
    · cases ran
      simp [complete, Phase.level]
    · cases ran
      simp [complete, Phase.level]
  case newManager | managerReset | join =>
    split at ran
    · cases ran
      simp [Phase.level]
    · cases ran
  case fillManager =>
    split at ran
    · cases ran
    · split at ran
      · cases ran
        simp [Phase.level]
      · cases ran
        simp [Phase.level]
  case shutdownReturn =>
    split at ran
    · cases ran
    · cases ran
      simp [Phase.level]
  case cleanup | coreRaise | handlerRaise | build | transportRaise | apiRaise | spawn | apiLower |
      shutdownCall | serverReset | transportLower | handlerLower | coreLower =>
    cases ran
    simp [complete, Sys.build, Phase.level]
  case transportTest | serverTest =>
    cases ran
    simp only
    split <;> simp [Phase.level]
  case clear =>
    split at ran
    · cases ran
      simp [Phase.level]
    · split at ran
      · cases ran
        simp [Phase.level]
      · cases ran
        simp [complete, Phase.level]

/-- The controller's flag rises at the end of a start and falls at the beginning of a
stop; and a call that returns leaves `started` behind only from the join. -/
theorem ctrl_flag {w : World} (ran : s.ctrl config w = some s') :
    ((s.phase = .apiRaise ∧ s'.phase = .spawn ∧ s'.isRunning = true) ∨
      (s'.phase ≠ .spawn ∧ s.phase = .apiLower ∧ s'.isRunning = false) ∨
      (s'.phase ≠ .spawn ∧ s'.isRunning = s.isRunning)) ∧
    (s'.phase = .idle → s'.started = none ∨ ∃ i, s.phase = .join i) := by
  cases h : s.phase <;> simp only [ctrl, h] at ran
  case idle => cases ran
  case coreTest | apiTest | handlerTest | coreStopTest | buildTest =>
    split at ran
    · cases ran
      simp [complete]
    · cases ran
      simp [complete]
  case newManager | managerReset | join =>
    split at ran
    · cases ran
      simp
    · cases ran
  case fillManager =>
    split at ran
    · cases ran
    · split at ran
      · cases ran
        simp
      · cases ran
        simp
  case shutdownReturn =>
    split at ran
    · cases ran
    · cases ran
      simp
  case cleanup | coreRaise | handlerRaise | build | transportRaise | apiRaise | spawn | apiLower |
      shutdownCall | serverReset | transportLower | handlerLower | coreLower =>
    cases ran
    simp [complete, Sys.build]
  case transportTest | serverTest =>
    cases ran
    simp only
    split <;> simp
  case clear =>
    split at ran
    · cases ran
      simp
    · split at ran
      · cases ran
        simp
      · cases ran
        simp [complete]

/-! ### The other threads -/

/-- A run loop or an RPC moves, or an RPC comes in. -/
def Other : Label → Prop
  | .loop _ | .accept _ _ _ | .rpc _ => True
  | .startAsync | .stop | .ctrl _ => False

/-- What the other threads can change: one run loop moves, or the RPCs do. -/
theorem other_cases {l : Label} (other : Other l) (ran : (machine config).step l s = some s') :
    (∃ i m m' isRunning, s.loops[i]? = some m ∧ m.next s = some (m', isRunning) ∧
      s' = { s with loops := s.loops.set i m', isRunning }) ∨
    ∃ rpcs, s' = { s with rpcs } := by
  have stepped := step_cases ran
  cases l with
  | loop i =>
      obtain ⟨m, m', isRunning, at_, next, rfl⟩ := stepped
      exact .inl ⟨i, m, m', isRunning, at_, next, rfl⟩
  | accept server service cameraId => exact .inr ⟨_, stepped.2⟩
  | rpc i =>
      obtain ⟨r, stage, -, -, rfl⟩ := stepped
      exact .inr ⟨_, rfl⟩
  | startAsync | stop | ctrl w => exact other.elim

/-- A run loop never raises the flag. -/
theorem next_lowers {l l' : Loop} {isRunning : Bool} (ran : l.next s = some (l', isRunning))
    (raised : isRunning = true) : s.isRunning = true := by
  cases l with
  | spawned =>
      cases ran
      exact raised
  | tested =>
      simp only [Loop.next] at ran
      split at ran <;> cases ran <;> exact raised
  | waiting server =>
      simp only [Loop.next] at ran
      split at ran
      · cases ran
        exact raised
      · cases ran
  | failed =>
      cases ran
      cases raised
  | finished | stored | faulted => cases ran

/-! ### The start -/

/-- During the only start. The run loop comes last, and the flag rises before it. -/
structure Starting (s : Sys) : Prop where
  level : s.phase.level = 5 ∨ s.phase.level = 2 ∨ s.phase.level = 1
  thread : s.serviceThread = none
  loops : (s.phase = .join 0 ∧ s.loops.length = 1) ∨ ((∀ i, s.phase ≠ .join i) ∧ s.loops = [])
  flag : s.isRunning = true → s.phase = .spawn ∨ s.phase = .join 0
  safe : s.phase = .spawn ∨ s.phase = .join 0 → s.FlagSafe
  opened : s.phase.opening = true → ∀ n, s.transport.server = some n → n ∉ s.shut

/-- After the only start: the stack serves. -/
structure Running (s : Sys) : Prop where
  idle : s.phase = .idle
  thread : s.serviceThread = some 0
  loops : s.loops.length = 1
  safe : s.FlagSafe
  server : ∃ n, s.transport = ⟨some n, true⟩ ∧ s.Accepts n

/-- The flag is down, and no run loop is there or the server that it could wait on is
gone. -/
structure Down (s : Sys) : Prop where
  flag : s.isRunning = false
  threads : (s.loops = [] ∧ s.serviceThread = none) ∨
    (s.loops.length = 1 ∧ s.serviceThread = some 0 ∧ s.transport.server = none)

theorem Starting.other {l : Label} (h : s.Starting) (other : Other l)
    (ran : (machine config).step l s = some s') : s'.Starting := by
  rcases other_cases other ran with ⟨i, m, m', isRunning, at_, next, rfl⟩ | ⟨rpcs, rfl⟩
  · refine ⟨h.level, h.thread, ?_, ?_, fun at_' => (h.safe at_').loop at_ next, h.opened⟩
    · rcases h.loops with ⟨join, one⟩ | ⟨-, none⟩
      · exact .inl ⟨join, by simpa using one⟩
      · rw [none] at at_
        cases at_
    · exact fun raised => h.flag (next_lowers next raised)
  · exact ⟨h.level, h.thread, h.loops, h.flag,
      fun at_ => (h.safe at_).congr rfl rfl rfl, h.opened⟩

theorem Running.other {l : Label} (h : s.Running) (other : Other l)
    (ran : (machine config).step l s = some s') : s'.Running := by
  rcases other_cases other ran with ⟨i, m, m', isRunning, at_, next, rfl⟩ | ⟨rpcs, rfl⟩
  · exact ⟨h.idle, h.thread, by simpa using h.loops, h.safe.loop at_ next, h.server⟩
  · exact ⟨h.idle, h.thread, h.loops, h.safe.congr rfl rfl rfl, h.server⟩

theorem Down.other {l : Label} (h : s.Down) (other : Other l)
    (ran : (machine config).step l s = some s') : s'.Down := by
  rcases other_cases other ran with ⟨i, m, m', isRunning, at_, next, rfl⟩ | ⟨rpcs, rfl⟩
  · refine ⟨?_, ?_⟩
    · apply Bool.eq_false_iff.mpr
      intro raised
      have before := next_lowers next raised
      rw [h.flag] at before
      cases before
    · rcases h.threads with ⟨none, -⟩ | ⟨one, thread, gone⟩
      · rw [none] at at_
        cases at_
      · exact .inr ⟨by simpa using one, thread, gone⟩
  · exact ⟨h.flag, h.threads⟩

/-- The start goes on, or it returns: with success and the stack serving, or with an
error and everything above the core down. -/
theorem Starting.ctrl {w : World} (h : s.Starting) (o : s.Orderly) (t : s.Threaded)
    (ran : s.ctrl config w = some s') :
    (s'.phase ≠ .idle ∧ s'.Starting) ∨
      (s'.phase = .idle ∧ s'.started.isSome = true ∧ s'.Running) ∨
      (s'.phase = .idle ∧ s'.started = none ∧ s'.Down) := by
  have ok := o.phase
  have unjoined : ∀ {phase}, s.phase = phase → (∀ i, phase ≠ .join i) → s.loops = [] := by
    intro phase at_ other
    rcases h.loops with ⟨join, -⟩ | ⟨-, none⟩
    · exact absurd (at_.symm.trans join) (other 0)
    · exact none
  rcases ctrl_cases ran with ⟨at_, rfl⟩ | ⟨loop, at_, -, rfl⟩ | ⟨at_, rfl⟩ | ⟨at_, rfl⟩ |
    ⟨at_, rfl⟩ | ⟨frame, unspawned, joins, -, -, opening⟩
  · -- spawn
    have none : s.loops = [] := unjoined at_ (by simp)
    have safe := h.safe (.inl at_)
    refine .inl ⟨by simp, .inl rfl, h.thread, .inl ⟨by simp [none], by simp [none]⟩,
      fun _ => .inr (by simp [none]), fun _ => ⟨safe.raised, safe.server, by simp [none]⟩, ?_⟩
    exact fun _ => h.opened (by rw [at_]; rfl)
  · -- join
    rw [at_] at ok
    obtain ⟨-, raised, server, bound, live⟩ := ok
    obtain ⟨zero, one⟩ : s.phase = .join 0 ∧ s.loops.length = 1 := by
      rcases h.loops with first | ⟨other, -⟩
      · exact first
      · exact absurd at_ (other loop)
    obtain rfl : loop = 0 := Phase.join.inj (at_.symm.trans zero)
    refine .inr (.inl ⟨rfl, by simp [live], rfl, rfl, one, ?_, server, ?_, bound, ?_⟩)
    · exact (h.safe (.inr zero)).congr rfl rfl rfl
    · exact congrArg₂ GrpcTransport.mk live raised
    · exact h.opened (by rw [at_]; rfl) server live
  · -- build
    refine .inl ⟨by simp [Sys.build], .inl rfl, h.thread, .inr ⟨by simp [Sys.build], ?_⟩, ?_,
      by simp [Sys.build], ?_⟩
    · exact unjoined at_ (by simp)
    · intro raised
      rcases h.flag raised with spawn | join
      · rw [at_] at spawn
        cases spawn
      · rw [at_] at join
        cases join
    · intro _ n current shut
      simp only [Sys.build] at current shut
      split at current
      · cases current
        simp only [List.mem_append, Option.mem_toList] at shut
        exact Nat.lt_irrefl _ (t.fresh s.nextServer shut.symm)
      · cases current
  · -- no start calls `Shutdown`
    rcases h.level with level | level | level <;> rw [at_] at level <;> cases level
  · rcases h.level with level | level | level <;> rw [at_] at level <;> cases level
  · have none : s'.loops = [] := by
      rw [frame.loops]
      exact unjoined rfl fun i => (joins i).1
    have low : s.isRunning = true → False := by
      intro raised
      rcases h.flag raised with spawn | join
      · exact unspawned spawn
      · exact (joins 0).1 join
    obtain ⟨flag, started⟩ := ctrl_flag ran
    by_cases idle : s'.phase = .idle
    · refine .inr (.inr ⟨idle, ?_, ?_, .inl ⟨none, frame.serviceThread.trans h.thread⟩⟩)
      · rcases started idle with none | ⟨i, join⟩
        · exact none
        · exact absurd join (joins i).1
      · apply Bool.eq_false_iff.mpr
        intro raised
        rcases flag with ⟨-, spawn, -⟩ | ⟨-, -, lowered⟩ | ⟨-, same⟩
        · rw [idle] at spawn
          cases spawn
        · rw [lowered] at raised
          cases raised
        · exact low (same.symm.trans raised)
    · refine .inl ⟨idle, ?_, frame.serviceThread.trans h.thread,
        .inr ⟨fun i => (joins i).2, none⟩, ?_, ?_, ?_⟩
      · rcases ctrl_level ran with ⟨-, done⟩ | same | ⟨-, rollback⟩ | ⟨lower, -⟩ | ⟨-, core⟩
        · exact absurd done idle
        · rw [same]
          exact h.level
        · rw [rollback]
          exact .inr (.inl rfl)
        · rcases h.level with level | level | level <;> rw [lower] at level <;> cases level
        · rw [core]
          exact .inr (.inr rfl)
      · intro raised
        rcases flag with ⟨-, spawn, -⟩ | ⟨-, -, lowered⟩ | ⟨-, same⟩
        · exact .inl spawn
        · rw [lowered] at raised
          cases raised
        · exact (low (same.symm.trans raised)).elim
      · rintro (spawn | join)
        · rcases flag with ⟨raise, -, raised⟩ | ⟨other, -⟩ | ⟨other, -⟩
          · rw [raise] at ok
            obtain ⟨-, -, server, -, live⟩ := ok
            refine ⟨raised, ?_, by simp [none]⟩
            rw [frame.server, live]
            rfl
          · exact absurd spawn other
          · exact absurd spawn other
        · exact absurd join (joins 0).2
      · intro opens n current
        rw [frame.shut]
        exact h.opened (opening opens) n (frame.server ▸ current)

/-! ### The stop -/

/-- During a stop of the stack. The flag is down when the transport is stopped, and the
server is gone before the handler is. -/
structure Stopping (s : Sys) : Prop where
  level : s.phase ≠ .idle ∧ s.phase.level ≤ 4
  thread : s.serviceThread = some 0
  loops : s.loops.length = 1
  safe : s.phase = .apiTest → s.FlagSafe
  flag : s.isRunning = true → s.phase = .apiTest ∨ s.phase = .apiLower
  transport : s.phase = .apiTest ∨ s.phase = .apiLower ∨ s.phase = .transportTest →
    s.transport.isRunning = true
  server : s.phase.level ≤ 2 ∨ s.phase = .transportLower → s.transport.server = none

/-- A stop begins where the stack serves. -/
theorem Running.stops (h : s.Running) : Stopping { s with phase := .apiTest } where
  level := by simp [Phase.level]
  thread := h.thread
  loops := h.loops
  safe _ := h.safe.congr rfl rfl rfl
  flag _ := .inl rfl
  transport _ := by
    obtain ⟨n, live, -⟩ := h.server
    exact congrArg GrpcTransport.isRunning live
  server gone := by simp [Phase.level] at gone

theorem Stopping.other {l : Label} (h : s.Stopping) (other : Other l)
    (ran : (machine config).step l s = some s') : s'.Stopping := by
  rcases other_cases other ran with ⟨i, m, m', isRunning, at_, next, rfl⟩ | ⟨rpcs, rfl⟩
  · exact ⟨h.level, h.thread, by simpa using h.loops, fun at_' => (h.safe at_').loop at_ next,
      fun raised => h.flag (next_lowers next raised), h.transport, h.server⟩
  · exact ⟨h.level, h.thread, h.loops, fun at_ => (h.safe at_).congr rfl rfl rfl, h.flag,
      h.transport, h.server⟩

/-- A step to a phase behind the flag. -/
theorem Stopping.past (h : s.Stopping) (loops : s'.loops = s.loops)
    (thread : s'.serviceThread = s.serviceThread) (flag : s'.isRunning = false)
    (phase : 1 ≤ s'.phase.level ∧ s'.phase.level ≤ 3 ∧ s'.phase ≠ .transportTest)
    (server : s'.phase.level ≤ 2 ∨ s'.phase = .transportLower → s'.transport.server = none) :
    s'.phase ≠ .idle ∧ s'.Stopping := by
  obtain ⟨above, below, untested⟩ := phase
  have calling : s'.phase ≠ .idle := by
    intro idle
    rw [idle] at above
    exact absurd above (by simp [Phase.level])
  have inside : s'.phase ≠ .apiTest ∧ s'.phase ≠ .apiLower := by
    constructor <;> intro at_ <;> rw [at_] at below <;> exact absurd below (by simp [Phase.level])
  refine ⟨calling, ⟨calling, by omega⟩, thread.trans h.thread, ?_, fun at_ => absurd at_ inside.1,
    ?_, ?_, server⟩
  · rw [loops]
    exact h.loops
  · intro raised
    rw [flag] at raised
    cases raised
  · rintro (at_ | at_ | at_)
    · exact absurd at_ inside.1
    · exact absurd at_ inside.2
    · exact absurd at_ untested

/-- The stop goes on, or it returns with everything above the core down. -/
theorem Stopping.ctrl {w : World} (h : s.Stopping) (ran : s.ctrl config w = some s') :
    (s'.phase ≠ .idle ∧ s'.Stopping) ∨ (s'.phase = .idle ∧ s'.Down) := by
  have level := h.level
  have gone := h.server
  have low : s.phase ≠ .apiTest → s.phase ≠ .apiLower → s.isRunning = false := by
    intro tested lowered
    apply Bool.eq_false_iff.mpr
    intro raised
    rcases h.flag raised with at_ | at_
    · exact tested at_
    · exact lowered at_
  cases at_ : s.phase <;> rw [at_] at level gone low <;> simp only [Sys.ctrl, at_] at ran
  case idle => exact absurd rfl level.1
  case coreTest | newManager | fillManager | cleanup | coreRaise | handlerRaise | build |
      buildTest | transportRaise | apiRaise | spawn | join =>
    exact absurd level.2 (by simp [Phase.level])
  case apiTest =>
    rw [(h.safe at_).raised] at ran
    cases ran
    exact .inl ⟨by simp, ⟨by simp [Phase.level], h.thread, h.loops, by simp, fun _ => .inr rfl,
      fun _ => h.transport (.inl at_), by simp [Phase.level]⟩⟩
  case apiLower =>
    cases ran
    exact .inl ⟨by simp, ⟨by simp [Phase.level], h.thread, h.loops, by simp, by simp,
      fun _ => h.transport (.inr (.inl at_)), by simp [Phase.level]⟩⟩
  case transportTest =>
    have flag := low (by simp) (by simp)
    rw [h.transport (.inr (.inr at_))] at ran
    cases ran
    exact .inl (h.past rfl rfl flag (by simp [Phase.level]) (by simp [Phase.level]))
  case serverTest =>
    have flag := low (by simp) (by simp)
    cases live : s.transport.server with
    | some server =>
        rw [live] at ran
        cases ran
        exact .inl (h.past rfl rfl flag (by simp [Phase.level]) (by simp [Phase.level]))
    | none =>
        rw [live] at ran
        cases ran
        exact .inl (h.past rfl rfl flag (by simp [Phase.level]) fun _ => live)
  case shutdownCall =>
    have flag := low (by simp) (by simp)
    cases ran
    exact .inl (h.past rfl rfl flag (by simp [Phase.level]) (by simp [Phase.level]))
  case shutdownReturn =>
    have flag := low (by simp) (by simp)
    split at ran
    · cases ran
    · cases ran
      exact .inl (h.past rfl rfl flag (by simp [Phase.level]) (by simp [Phase.level]))
  case serverReset =>
    have flag := low (by simp) (by simp)
    cases ran
    exact .inl (h.past rfl rfl flag (by simp [Phase.level]) fun _ => rfl)
  case transportLower =>
    have flag := low (by simp) (by simp)
    have server := gone (.inr rfl)
    cases ran
    exact .inl (h.past rfl rfl flag (by simp [Phase.level]) fun _ => server)
  case handlerTest | coreStopTest =>
    have flag := low (by simp) (by simp)
    have server := gone (.inl (by simp [Phase.level]))
    split at ran
    · cases ran
      exact .inl (h.past rfl rfl flag (by simp [Phase.level]) fun _ => server)
    · cases ran
      exact .inr ⟨rfl, flag, .inr ⟨h.loops, h.thread, server⟩⟩
  case handlerLower =>
    have flag := low (by simp) (by simp)
    have server := gone (.inl (by simp [Phase.level]))
    cases ran
    exact .inl (h.past rfl rfl flag (by simp [Phase.level]) fun _ => server)
  case clear =>
    have flag := low (by simp) (by simp)
    have server := gone (.inl (by simp [Phase.level]))
    split at ran
    · cases ran
      exact .inl (h.past rfl rfl flag (by simp [Phase.level]) fun _ => server)
    · split at ran
      · cases ran
        exact .inl (h.past rfl rfl flag (by simp [Phase.level]) fun _ => server)
      · cases ran
        exact .inr ⟨rfl, flag, .inr ⟨h.loops, h.thread, server⟩⟩
  case managerReset =>
    have flag := low (by simp) (by simp)
    have server := gone (.inl (by simp [Phase.level]))
    split at ran
    · cases ran
      exact .inl (h.past rfl rfl flag (by simp [Phase.level]) fun _ => server)
    · cases ran
  case coreLower =>
    have flag := low (by simp) (by simp)
    have server := gone (.inl (by simp [Phase.level]))
    cases ran
    exact .inr ⟨rfl, flag, .inr ⟨h.loops, h.thread, server⟩⟩

/-! ### After the stop -/

/-- Every run loop has ended. -/
def Ended (s : Sys) : Prop := ∀ l ∈ s.loops, l = .finished ∨ l = .stored

/-- A step of a stop touches the server only to shut it down or to drop it. -/
theorem ctrl_below {w : World} (level : s.phase.level ≤ 4) (ran : s.ctrl config w = some s') :
    s'.loops = s.loops ∧ s'.serviceThread = s.serviceThread ∧
      (s.transport.server = none → s'.transport.server = none) := by
  rcases ctrl_cases ran with ⟨at_, -⟩ | ⟨_, at_, -⟩ | ⟨at_, -⟩ | ⟨-, rfl⟩ | ⟨-, rfl⟩ | ⟨frame, -⟩
  · rw [at_] at level
    exact absurd level (by simp [Phase.level])
  · rw [at_] at level
    exact absurd level (by simp [Phase.level])
  · rw [at_] at level
    exact absurd level (by simp [Phase.level])
  · exact ⟨rfl, rfl, id⟩
  · exact ⟨rfl, rfl, fun _ => rfl⟩
  · exact ⟨frame.loops, frame.serviceThread, fun none => frame.server.trans none⟩

theorem Down.ctrl {w : World} (h : s.Down) (level : s.phase.level ≤ 4)
    (ran : s.ctrl config w = some s') : s'.Down := by
  obtain ⟨loops, thread, server⟩ := ctrl_below level ran
  refine ⟨?_, ?_⟩
  · rcases (ctrl_flag ran).1 with ⟨raise, -⟩ | ⟨-, -, lowered⟩ | ⟨-, same⟩
    · rw [raise] at level
      exact absurd level (by simp [Phase.level])
    · exact lowered
    · exact same.trans h.flag
  · rw [loops, thread]
    rcases h.threads with none | ⟨one, first, gone⟩
    · exact .inl none
    · exact .inr ⟨one, first, server gone⟩

theorem Ended.ctrl {w : World} (h : s.Ended) (level : s.phase.level ≤ 4)
    (ran : s.ctrl config w = some s') : s'.Ended := by
  rw [Ended, (ctrl_below level ran).1]
  exact h

theorem Ended.other {l : Label} (h : s.Ended) (other : Other l)
    (ran : (machine config).step l s = some s') : s'.Ended := by
  rcases other_cases other ran with ⟨i, m, m', isRunning, at_, next, rfl⟩ | ⟨rpcs, rfl⟩
  · rcases h m (List.mem_of_getElem? at_) with rfl | rfl <;> cases next
  · exact h

/-- Once the service thread can be joined, no run loop is left. -/
theorem Down.ended (h : s.Down) (joinable : s.joinable) : s.Ended := by
  intro l mem
  obtain ⟨i, at_⟩ := List.mem_iff_getElem?.mp mem
  rcases h.threads with ⟨none, -⟩ | ⟨one, thread, -⟩
  · rw [none] at mem
    cases mem
  · have bound := (List.getElem?_eq_some_iff.mp at_).1
    obtain rfl : i = 0 := by omega
    rcases joinable 0 thread with done | done
    · exact .inl (Option.some.inj (at_.symm.trans done))
    · exact .inr (Option.some.inj (at_.symm.trans done))

end Sys

end SensorCore.Threads
