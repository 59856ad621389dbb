import SensorCore.Lib.Potential
import SensorCore.Threads.RunLoops
import SensorCore.Threads.Lifetime

/-!
Where a call can be blocked.

`Sys.rank` bounds the steps that the threads still have to take: a start adds at most
52, a stop 56 and an RPC 4, however the threads take turns (`potential`). So a call
fails to return only where it is blocked. `moves` says where that is. `startAsync` blocks
at the assignment to `service_thread_`, which joins the run loop of the start before. A run
loop that was scheduled too late waits on the server that this start has just built, and
nobody will shut that server down (`Hung`); or it went through a null pointer; or its
server was destroyed under its `Wait` (`Stranded`). `stop` blocks in `Shutdown`, as long as
an RPC waits for its downstream service (`Delayed`).

`calls_end` is this for all runs, and `late_loop_hangs` one that is blocked: the second
start never returns, and its server accepts RPCs. `ctrl_cases` says which steps of the controlling
thread touch run loops and servers, and `Threaded` what the threads rely on.
-/

namespace SensorCore.Threads

open SensorCore.Lib SensorCore.Config SensorCore.Clients SensorCore.Api

/-! ### The work that is left -/

/-- How many steps the controlling thread still takes at most. -/
def Phase.rank : Phase → Nat
  | .idle => 0
  | .coreLower | .cleanup | .join _ => 1
  | .managerReset | .spawn => 2
  | .clear | .apiRaise => 3
  | .coreStopTest | .transportRaise => 4
  | .handlerLower => 5
  | .handlerTest => 6
  | .transportLower | .buildTest _ => 7
  | .serverReset | .build => 8
  | .shutdownReturn | .handlerRaise => 9
  | .shutdownCall | .coreRaise => 10
  | .serverTest | .fillManager => 11
  | .transportTest | .newManager => 12
  | .apiLower | .coreTest => 13
  | .apiTest => 14

def Loop.rank : Loop → Nat
  | .spawned => 3
  | .tested => 2
  | .waiting _ | .failed => 1
  | .finished | .stored | .faulted => 0

def Stage.rank : Stage → Nat
  | .accepted => 4
  | .handlerTested => 3
  | .coreTested => 2
  | .holding _ => 1
  | .finished _ => 0

/-- A step of the controlling thread can spawn a run loop, so it counts for four. -/
def Sys.rank (s : Sys) : Nat :=
  4 * s.phase.rank + (s.loops.map Loop.rank).sum + (s.rpcs.map fun r => r.stage.rank).sum

/-- The steps that the threads take by themselves. -/
def Label.work : Label → Nat
  | .ctrl _ | .loop _ | .rpc _ => 1
  | .startAsync | .stop | .accept _ _ _ => 0

/-- What a call and an RPC add. -/
def Label.credit : Label → Nat
  | .startAsync => 52
  | .stop => 56
  | .accept _ _ _ => 4
  | .ctrl _ | .loop _ | .rpc _ => 0

theorem Label.pays {l : Label} (own : l.work = 1) : l.credit < l.work := by
  cases l with
  | ctrl _ | loop _ | rpc _ => exact Nat.one_pos
  | startAsync | stop | accept _ _ _ => cases own

variable {config : InfrastructureConfig} {s s' : Sys}

namespace Sys

/-- The controlling thread gets on with its call. -/
theorem ctrl_spends {w : World} (ran : s.ctrl config w = some s') :
    s'.phase.rank < s.phase.rank ∧ s'.rpcs = s.rpcs := by
  cases h : s.phase <;> simp only [ctrl, h] at ran
  case idle => cases ran
  case coreTest | apiTest | handlerTest | coreStopTest | buildTest =>
    split at ran
    · cases ran
      simp [complete, Phase.rank]
    · cases ran
      simp [complete, Phase.rank]
  case newManager | managerReset | join =>
    split at ran
    · cases ran
      simp [Phase.rank]
    · cases ran
  case fillManager =>
    split at ran
    · cases ran
    · split at ran
      · cases ran
        simp [Phase.rank]
      · cases ran
        simp [Phase.rank]
  case cleanup | coreRaise | handlerRaise | transportRaise | apiRaise | spawn | apiLower |
      shutdownCall | serverReset | transportLower | handlerLower | coreLower | build =>
    cases ran
    simp [complete, Sys.build, Phase.rank]
  case transportTest | serverTest =>
    cases ran
    refine ⟨?_, rfl⟩
    simp only
    split <;> simp [Phase.rank]
  case shutdownReturn =>
    split at ran
    · cases ran
    · cases ran
      simp [Phase.rank]
  case clear =>
    split at ran
    · cases ran
      simp [Phase.rank]
    · split at ran
      · cases ran
        simp [Phase.rank]
      · cases ran
        simp [complete, Phase.rank]

end Sys

theorem Loop.next_rank {l l' : Loop} {isRunning : Bool} (ran : l.next s = some (l', isRunning)) :
    l'.rank < l.rank := by
  cases l with
  | spawned =>
      cases ran
      split <;> simp [Loop.rank]
  | tested =>
      simp only [Loop.next] at ran
      split at ran <;> cases ran <;> simp [Loop.rank]
  | waiting server =>
      simp only [Loop.next] at ran
      split at ran
      · cases ran
        simp [Loop.rank]
      · cases ran
  | failed =>
      cases ran
      simp [Loop.rank]
  | finished | stored | faulted => cases ran

theorem Rpc.next_rank {r : Rpc} {stage : Stage} (ran : r.next s = some stage) :
    stage.rank < r.stage.rank := by
  cases at_ : r.stage <;> rw [Rpc.next, at_] at ran
  case accepted | handlerTested =>
    cases ran
    split <;> simp [Stage.rank]
  case coreTested =>
    simp only at ran
    split at ran
    · cases ran
      simp [Stage.rank]
    · split at ran <;> cases ran <;> simp [Stage.rank]
  case holding =>
    cases ran
    simp [Stage.rank]
  case finished => cases ran

/-- The threads do no more than the calls and the RPCs have brought. -/
theorem potential (config : InfrastructureConfig) :
    (machine config).Potential (fun _ => True) Label.work Label.credit Sys.rank := by
  refine ⟨fun _ _ _ _ _ => trivial, ?_⟩
  intro s t l _ ran
  have stepped := step_cases ran
  cases l with
  | startAsync =>
      obtain ⟨idle, rfl⟩ := stepped
      simp only [Label.work, Label.credit, Sys.rank, idle, Phase.rank]
      omega
  | stop =>
      obtain ⟨idle, rfl⟩ := stepped
      simp only [Label.work, Label.credit, Sys.rank, idle, Phase.rank]
      omega
  | ctrl w =>
      obtain ⟨lower, rpcs⟩ := Sys.ctrl_spends stepped
      obtain ⟨same | spawned, -⟩ := Sys.ctrl_frame stepped
      · simp only [Label.work, Label.credit, Sys.rank, same, rpcs]
        omega
      · simp only [Label.work, Label.credit, Sys.rank, spawned, rpcs, List.map_append,
          List.sum_append, List.map_cons, List.map_nil, List.sum_cons, List.sum_nil, Loop.rank]
        omega
  | loop i =>
      obtain ⟨l, l', isRunning, at_, next, rfl⟩ := stepped
      have lower := Loop.next_rank next
      have moved := sum_map_set Loop.rank at_ l'
      simp only [Label.work, Label.credit, Sys.rank]
      omega
  | accept server service cameraId =>
      obtain ⟨-, rfl⟩ := stepped
      simp only [Label.work, Label.credit, Sys.rank, List.map_append, List.sum_append,
        List.map_cons, List.map_nil, List.sum_cons, List.sum_nil, Stage.rank]
      omega
  | rpc i =>
      obtain ⟨r, stage, at_, next, rfl⟩ := stepped
      have lower := Rpc.next_rank next
      have moved := sum_map_set (fun r : Rpc => r.stage.rank) at_ { r with stage }
      simp only [Label.work, Label.credit, Sys.rank] at moved ⊢
      omega

namespace Sys

/-! ### Where nothing moves -/

/-- `startAsync` waits for a run loop that waits on the server that is taking RPCs. -/
def Hung (s : Sys) : Prop :=
  ∃ new old server, s.phase = .join new ∧ s.serviceThread = some old ∧
    s.loops[old]? = some (.waiting server) ∧ s.Accepts server

/-- A run loop is in `Wait` on a server that was destroyed: it may never return. -/
def Stranded (s : Sys) : Prop :=
  ∃ server, Loop.waiting server ∈ s.loops ∧ s.transport.server ≠ some server

/-- `Shutdown` waits for an RPC that is in its downstream call. The clients set no deadline
for that. -/
def Delayed (s : Sys) : Prop :=
  s.phase = .shutdownReturn ∧
    ∃ r ∈ s.rpcs, (∃ client, r.stage = .holding client) ∧ s.transport.server = some r.server

/-- The step needs nothing from outside: it is neither the end of a downstream call, nor
the end of a `Wait` on a server that was destroyed. -/
def Unaided (s : Sys) : Label → Prop
  | .loop i => ∀ server, s.loops[i]? = some (.waiting server) → s.transport.server = some server
  | .rpc i => ∀ r, s.rpcs[i]? = some r → ∀ client, r.stage ≠ .holding client
  | .startAsync | .stop | .ctrl _ | .accept _ _ _ => True

/-! ### What the threads rely on -/

/-- The run loops, the thread that is joined, and the servers are the same. -/
structure Frame (s s' : Sys) : Prop where
  loops : s'.loops = s.loops
  serviceThread : s'.serviceThread = s.serviceThread
  server : s'.transport.server = s.transport.server
  bound : s'.bound = s.bound
  shut : s'.shut = s.shut
  nextServer : s'.nextServer = s.nextServer

theorem Frame.phase (s : Sys) (phase : Phase) : s.Frame { s with phase } :=
  ⟨rfl, rfl, rfl, rfl, rfl, rfl⟩

/-- The five steps of the controlling thread that touch run loops or servers, and what
the others do to the phase. -/
theorem ctrl_cases {w : World} (ran : s.ctrl config w = some s') :
    (s.phase = .spawn ∧
      s' = { s with loops := s.loops ++ [.spawned], phase := .join s.loops.length }) ∨
    (∃ loop, s.phase = .join loop ∧ s.joinable ∧
      s' = { s with
        serviceThread := some loop, phase := .idle,
        started := s.transport.server.map fun server => (loop, server) }) ∨
    (s.phase = .build ∧ s' = s.build w) ∨
    (s.phase = .shutdownCall ∧
      s' = { s with shut := s.transport.server.toList ++ s.shut, phase := .shutdownReturn }) ∨
    (s.phase = .serverReset ∧
      s' = { s with transport := { s.transport with server := none }, phase := .transportLower }) ∨
    (s.Frame s' ∧ s.phase ≠ .spawn ∧ (∀ i, s.phase ≠ .join i ∧ s'.phase ≠ .join i) ∧
      (s'.phase = .fillManager → s'.clientManager.isSome = true) ∧
      (s'.phase = .serverReset → s.phase = .shutdownReturn) ∧
      (s'.phase.opening = true → s.phase.opening = true)) := by
  cases h : s.phase <;> simp only [ctrl, h] at ran
  case idle => cases ran
  case spawn =>
    cases ran
    exact .inl ⟨rfl, rfl⟩
  case join loop =>
    split at ran
    · rename_i joinable
      cases ran
      exact .inr (.inl ⟨loop, rfl, joinable, rfl⟩)
    · cases ran
  case build =>
    cases ran
    exact .inr (.inr (.inl ⟨rfl, rfl⟩))
  case shutdownCall =>
    cases ran
    exact .inr (.inr (.inr (.inl ⟨rfl, rfl⟩)))
  case serverReset =>
    cases ran
    exact .inr (.inr (.inr (.inr (.inl ⟨rfl, rfl⟩))))
  all_goals refine .inr (.inr (.inr (.inr (.inr ?_))))
  case coreTest | apiTest | handlerTest | coreStopTest | buildTest =>
    split at ran
    · cases ran
      exact ⟨⟨rfl, rfl, rfl, rfl, rfl, rfl⟩, by simp [complete, Phase.opening]⟩
    · cases ran
      exact ⟨⟨rfl, rfl, rfl, rfl, rfl, rfl⟩, by simp [complete, Phase.opening]⟩
  case newManager | managerReset =>
    split at ran
    · cases ran
      exact ⟨⟨rfl, rfl, rfl, rfl, rfl, rfl⟩, by simp [Phase.opening]⟩
    · cases ran
  case shutdownReturn =>
    split at ran
    · cases ran
    · cases ran
      exact ⟨Frame.phase s _, by simp [Phase.opening]⟩
  case fillManager =>
    split at ran
    · cases ran
    · split at ran
      · cases ran
        exact ⟨⟨rfl, rfl, rfl, rfl, rfl, rfl⟩, by simp [Phase.opening]⟩
      · cases ran
        exact ⟨⟨rfl, rfl, rfl, rfl, rfl, rfl⟩, by simp [Phase.opening]⟩
  case cleanup | coreRaise | handlerRaise | transportRaise | apiRaise | apiLower |
      transportLower | handlerLower | coreLower =>
    cases ran
    exact ⟨⟨rfl, rfl, rfl, rfl, rfl, rfl⟩, by simp [complete, Phase.opening]⟩
  case transportTest | serverTest =>
    cases ran
    refine ⟨Frame.phase s _, ?_⟩
    simp only
    split <;> simp [Phase.opening]
  case clear =>
    split at ran
    · cases ran
      exact ⟨⟨rfl, rfl, rfl, rfl, rfl, rfl⟩, by simp [Phase.opening]⟩
    · split at ran
      · cases ran
        exact ⟨⟨rfl, rfl, rfl, rfl, rfl, rfl⟩, by simp [Phase.opening]⟩
      · cases ran
        exact ⟨⟨rfl, rfl, rfl, rfl, rfl, rfl⟩, by simp [complete, Phase.opening]⟩

/-- A run loop waits on the server that is there, or on one that was shut down. Only
the thread of the latest start, and the one that is about to take its place, can still
be at work. -/
structure Threaded (s : Sys) : Prop where
  filling : s.phase = .fillManager → s.clientManager.isSome = true
  resetting : s.phase = .serverReset → ∀ server, s.transport.server = some server →
    server ∈ s.shut
  joined : ∀ i, s.serviceThread = some i → i < s.loops.length
  joining : ∀ i, s.phase = .join i → i < s.loops.length
  single : ∀ i l, s.loops[i]? = some l →
    l.rank = 0 ∨ s.serviceThread = some i ∨ s.phase = .join i
  waiting : ∀ server, Loop.waiting server ∈ s.loops →
    server ∈ s.shut ∨ s.transport.server = some server
  fresh : ∀ server, server ∈ s.shut ∨ s.transport.server = some server → server < s.nextServer

theorem Threaded.init : Sys.init.Threaded where
  filling h := by cases h
  resetting h := by cases h
  joined i h := by cases h
  joining i h := by cases h
  single i l h := by cases h
  waiting server mem := absurd mem List.not_mem_nil
  fresh server known := by
    rcases known with shut | current
    · exact absurd shut List.not_mem_nil
    · cases current

theorem threaded_ctrl {w : World} (o : s.Orderly) (t : s.Threaded)
    (ran : s.ctrl config w = some s') : s'.Threaded := by
  rcases ctrl_cases ran with ⟨h, rfl⟩ | ⟨loop, h, joinable, rfl⟩ | ⟨h, rfl⟩ | ⟨h, rfl⟩ |
    ⟨h, rfl⟩ | ⟨frame, -, joins, filling, resetting, -⟩
  · -- spawn
    refine ⟨by simp, by simp, ?_, ?_, ?_, ?_, t.fresh⟩
    · intro i at_
      have before := t.joined i at_
      simp only [List.length_append]
      omega
    · intro i at_
      obtain rfl : s.loops.length = i := Phase.join.inj at_
      simp
    · intro i l at_
      by_cases old : i < s.loops.length
      · rw [List.getElem?_append_left old] at at_
        rcases t.single i l at_ with done | thread | join
        · exact .inl done
        · exact .inr (.inl thread)
        · rw [h] at join
          cases join
      · have last : i < (s.loops ++ [Loop.spawned]).length := (List.getElem?_eq_some_iff.mp at_).1
        simp only [List.length_append, List.length_singleton] at last
        obtain rfl : s.loops.length = i := by omega
        exact .inr (.inr rfl)
    · intro n mem
      rcases List.mem_append.mp mem with before | new
      · exact t.waiting n before
      · cases List.mem_singleton.mp new
  · -- join
    refine ⟨by simp, by simp, ?_, by simp, ?_, t.waiting, t.fresh⟩
    · intro i at_
      obtain rfl : loop = i := Option.some.inj at_
      exact t.joining loop h
    · intro i l at_
      rcases t.single i l at_ with done | thread | join
      · exact .inl done
      · left
        rcases joinable i thread with finished | stored
        · cases at_.symm.trans finished
          rfl
        · cases at_.symm.trans stored
          rfl
      · right
        left
        exact congrArg some (Phase.join.inj (h.symm.trans join))
  · -- build
    refine ⟨by simp [Sys.build], by simp [Sys.build], t.joined, by simp [Sys.build], ?_, ?_, ?_⟩
    · intro i l at_
      rcases t.single i l at_ with done | thread | join
      · exact .inl done
      · exact .inr (.inl thread)
      · rw [h] at join
        cases join
    · intro n mem
      left
      rcases t.waiting n mem with shut | current
      · exact List.mem_append_right _ shut
      · simp [Sys.build, current]
    · intro n known
      simp only [Sys.build, List.mem_append, Option.mem_toList] at known ⊢
      rcases known with (old | shut) | new
      · exact Nat.lt_succ_of_lt (t.fresh n (.inr old))
      · exact Nat.lt_succ_of_lt (t.fresh n (.inl shut))
      · split at new
        · cases new
          exact Nat.lt_succ_self _
        · cases new
  · -- shutdownCall
    refine ⟨by simp, by simp, t.joined, by simp, ?_, ?_, ?_⟩
    · intro i l at_
      rcases t.single i l at_ with done | thread | join
      · exact .inl done
      · exact .inr (.inl thread)
      · rw [h] at join
        cases join
    · intro n mem
      rcases t.waiting n mem with shut | current
      · exact .inl (List.mem_append_right _ shut)
      · exact .inr current
    · intro n known
      simp only [List.mem_append, Option.mem_toList] at known
      rcases known with (current | shut) | current
      · exact t.fresh n (.inr current)
      · exact t.fresh n (.inl shut)
      · exact t.fresh n (.inr current)
  · -- serverReset
    refine ⟨by simp, by simp, t.joined, by simp, ?_, ?_, ?_⟩
    · intro i l at_
      rcases t.single i l at_ with done | thread | join
      · exact .inl done
      · exact .inr (.inl thread)
      · rw [h] at join
        cases join
    · intro n mem
      left
      rcases t.waiting n mem with shut | current
      · exact shut
      · exact t.resetting h n current
    · intro n known
      rcases known with shut | current
      · exact t.fresh n (.inl shut)
      · cases current
  · refine ⟨filling, ?_, ?_, fun i at_ => absurd at_ (joins i).2, ?_, ?_, ?_⟩
    · intro at_ n current
      have ok := o.phase
      rw [resetting at_] at ok
      rw [frame.shut]
      exact ok.2 n (frame.server ▸ current)
    · intro i at_
      rw [frame.loops]
      exact t.joined i (frame.serviceThread ▸ at_)
    · intro i l at_
      rw [frame.loops] at at_
      rw [frame.serviceThread]
      rcases t.single i l at_ with done | thread | join
      · exact .inl done
      · exact .inr (.inl thread)
      · exact absurd join (joins i).1
    · intro n mem
      rw [frame.shut, frame.server]
      exact t.waiting n (frame.loops ▸ mem)
    · intro n known
      rw [frame.shut, frame.server] at known
      rw [frame.nextServer]
      exact t.fresh n known

theorem threaded_loop {i : Nat} {l l' : Loop} {isRunning : Bool} (t : s.Threaded)
    (at_ : s.loops[i]? = some l) (ran : l.next s = some (l', isRunning)) :
    Threaded { s with loops := s.loops.set i l', isRunning } := by
  refine ⟨t.filling, t.resetting, ?_, ?_, ?_, ?_, t.fresh⟩
  · intro j thread
    rw [List.length_set]
    exact t.joined j thread
  · intro j join
    rw [List.length_set]
    exact t.joining j join
  · intro j m held
    by_cases same : i = j
    · subst same
      refine (t.single i l at_).resolve_left ?_ |> .inr
      have lower := Loop.next_rank ran
      omega
    · rw [List.getElem?_set_ne same] at held
      exact t.single j m held
  · intro n mem
    rcases List.mem_or_eq_of_mem_set mem with before | new
    · exact t.waiting n before
    · right
      subst new
      cases l with
      | tested =>
          simp only [Loop.next] at ran
          split at ran
          · cases ran
          · rename_i server live
            cases ran
            exact live
      | spawned =>
          simp only [Loop.next] at ran
          split at ran <;> cases ran
      | waiting server =>
          simp only [Loop.next] at ran
          split at ran <;> cases ran
      | failed | finished | stored | faulted => cases ran

/-- Every step keeps it. -/
theorem threaded_step {l : Label} (o : s.Orderly) (t : s.Threaded)
    (ran : (machine config).step l s = some s') : s'.Threaded := by
  have stepped := step_cases ran
  cases l with
  | startAsync | stop =>
      obtain ⟨idle, rfl⟩ := stepped
      refine ⟨by simp, by simp, t.joined, by simp, ?_, t.waiting, t.fresh⟩
      intro i l at_
      rcases t.single i l at_ with done | thread | join
      · exact .inl done
      · exact .inr (.inl thread)
      · rw [idle] at join
        cases join
  | ctrl w => exact threaded_ctrl o t stepped
  | loop i =>
      obtain ⟨l, l', isRunning, at_, next, rfl⟩ := stepped
      exact threaded_loop t at_ next
  | accept server service cameraId =>
      obtain ⟨-, rfl⟩ := stepped
      exact ⟨t.filling, t.resetting, t.joined, t.joining, t.single, t.waiting, t.fresh⟩
  | rpc i =>
      obtain ⟨r, stage, -, -, rfl⟩ := stepped
      exact ⟨t.filling, t.resetting, t.joined, t.joining, t.single, t.waiting, t.fresh⟩

theorem threaded_of_reach (reach : (machine config).Reach s) : s.Threaded :=
  reach.invariant_under (fun _ => orderly_of_reach) .init
    fun _ _ _ o t _ ran => threaded_step o t ran

theorem step_loop {i : Nat} {l l' : Loop} {isRunning : Bool} (at_ : s.loops[i]? = some l)
    (next : l.next s = some (l', isRunning)) :
    (machine config).step (.loop i) s = some { s with loops := s.loops.set i l', isRunning } := by
  simp [machine, at_, next]

theorem step_rpc {i : Nat} {r : Rpc} {stage : Stage} (at_ : s.rpcs[i]? = some r)
    (next : r.next s = some stage) :
    (machine config).step (.rpc i) s = some { s with rpcs := s.rpcs.set i { r with stage } } := by
  simp [machine, at_, next]

/-- A run loop that is neither waiting nor done has a step. -/
theorem loop_moves (config : InfrastructureConfig) {i : Nat} {l : Loop}
    (at_ : s.loops[i]? = some l)
    (moving : l ≠ .finished ∧ l ≠ .stored ∧ l ≠ .faulted ∧
      ∀ server, l = .waiting server → server ∈ s.shut) :
    ∃ s', (machine config).step (.loop i) s = some s' := by
  obtain ⟨unfinished, unstored, fine, shut⟩ := moving
  suffices ∃ next, l.next s = some next by
    obtain ⟨next, steps⟩ := this
    exact ⟨_, step_loop at_ steps⟩
  cases l with
  | spawned => exact ⟨_, rfl⟩
  | tested =>
      simp only [Loop.next]
      split <;> exact ⟨_, rfl⟩
  | waiting server => exact ⟨_, if_pos (shut server rfl)⟩
  | failed => exact ⟨_, rfl⟩
  | finished => exact absurd rfl unfinished
  | stored => exact absurd rfl unstored
  | faulted => exact absurd rfl fine

/-- Unless it waits on a server that was destroyed, a run loop needs no help. -/
theorem unaided_loop {i : Nat} {l : Loop} (at_ : s.loops[i]? = some l)
    (waited : ∀ server, l = .waiting server → s.transport.server = some server) :
    s.Unaided (.loop i) := by
  intro server held
  cases at_.symm.trans held
  exact waited server rfl

/-- An RPC that is in flight has a step. -/
theorem rpc_moves (config : InfrastructureConfig) {r : Rpc} (mem : r ∈ s.rpcs)
    (flying : r.InFlight) :
    ∃ i s', s.rpcs[i]? = some r ∧ (machine config).step (.rpc i) s = some s' := by
  obtain ⟨i, at_⟩ := List.mem_iff_getElem?.mp mem
  suffices ∃ stage, r.next s = some stage by
    obtain ⟨stage, steps⟩ := this
    exact ⟨i, _, at_, step_rpc at_ steps⟩
  cases stage : r.stage with
  | accepted => exact ⟨_, by rw [Rpc.next, stage]⟩
  | handlerTested => exact ⟨_, by rw [Rpc.next, stage]⟩
  | coreTested =>
      simp only [Rpc.next, stage]
      split
      · exact ⟨_, rfl⟩
      · split <;> exact ⟨_, rfl⟩
  | holding client => exact ⟨_, by rw [Rpc.next, stage]⟩
  | finished outcome => exact absurd stage (flying outcome)

/-- The controlling thread has a step, outside the two phases in which it waits. -/
theorem ctrl_moves (config : InfrastructureConfig) (t : s.Threaded) (calling : s.phase ≠ .idle)
    (returned : s.phase = .shutdownReturn → ¬ s.Serves)
    (joinable : ∀ new, s.phase = .join new → s.joinable) :
    ∃ s', (machine config).step (.ctrl .fine) s = some s' := by
  have quiet : ∀ m, Core.survivesDestructor World.fine.shutdown m = true := by
    intro m
    cases m <;> rfl
  suffices ∃ s', s.ctrl config .fine = some s' from this
  cases h : s.phase <;> simp only [ctrl, h, quiet, if_true]
  case idle => exact absurd h calling
  case fillManager =>
    obtain ⟨m, managed⟩ := Option.isSome_iff_exists.mp (t.filling h)
    simp only [managed]
    split <;> exact ⟨_, rfl⟩
  case buildTest => split <;> exact ⟨_, rfl⟩
  case clear =>
    split
    · exact ⟨_, rfl⟩
    · split <;> exact ⟨_, rfl⟩
  case shutdownReturn =>
    rw [if_neg (returned h)]
    exact ⟨_, rfl⟩
  case join new =>
    rw [if_pos (joinable new h)]
    exact ⟨_, rfl⟩
  all_goals exact ⟨_, rfl⟩

/-- While `Shutdown` waits, an RPC can go on, or it is in its downstream call. -/
theorem serving_moves (config : InfrastructureConfig) (returning : s.phase = .shutdownReturn)
    (serves : s.Serves) :
    (∃ i s', s.Unaided (.rpc i) ∧ (machine config).step (.rpc i) s = some s') ∨ s.Delayed := by
  obtain ⟨r, mem, flying, current⟩ := serves
  by_cases called : ∃ client, r.stage = .holding client
  · exact .inr ⟨returning, r, mem, called, current⟩
  · obtain ⟨i, s', at_, ran⟩ := rpc_moves config mem flying
    refine .inl ⟨i, s', ?_, ran⟩
    intro r' at' client holding
    cases at_.symm.trans at'
    exact called ⟨client, holding⟩

/-- A service thread that has not ended can go on, unless it is in `Wait` or went through a
null pointer. -/
theorem unjoined_moves (config : InfrastructureConfig) (t : s.Threaded) (blocked : ¬ s.joinable) :
    (∃ i s', s.Unaided (.loop i) ∧ (machine config).step (.loop i) s = some s') ∨
      Loop.faulted ∈ s.loops ∨
      ∃ old server, s.serviceThread = some old ∧ s.loops[old]? = some (.waiting server) := by
  simp only [joinable, not_forall, not_or] at blocked
  obtain ⟨old, thread, unfinished, unstored⟩ := blocked
  obtain ⟨l, held⟩ : ∃ l, s.loops[old]? = some l :=
    ⟨_, List.getElem?_eq_getElem (t.joined old thread)⟩
  rw [held] at unfinished unstored
  by_cases faulted : l = .faulted
  · exact .inr (.inl (faulted ▸ List.mem_of_getElem? held))
  by_cases waits : ∃ server, l = .waiting server
  · obtain ⟨server, rfl⟩ := waits
    exact .inr (.inr ⟨old, server, thread, held⟩)
  · have unwaiting : ∀ server, l ≠ .waiting server := fun server at_ => waits ⟨server, at_⟩
    obtain ⟨s', ran⟩ := loop_moves config held
      ⟨fun done => unfinished (congrArg some done), fun done => unstored (congrArg some done),
        faulted, fun server at_ => absurd at_ (unwaiting server)⟩
    exact .inl ⟨old, s', unaided_loop held fun server at_ => absurd at_ (unwaiting server), ran⟩

/-- The run loop that `startAsync` joins can go on, unless the call is blocked. -/
theorem joining_moves (config : InfrastructureConfig) (o : s.Orderly) (t : s.Threaded) {new : Nat}
    (at_ : s.phase = .join new) (blocked : ¬ s.joinable) :
    (∃ i s', s.Unaided (.loop i) ∧ (machine config).step (.loop i) s = some s') ∨
      s.Hung ∨ Loop.faulted ∈ s.loops ∨ s.Stranded := by
  rcases unjoined_moves config t blocked with moving | faulted | ⟨old, server, thread, held⟩
  · exact .inl moving
  · exact .inr (.inr (.inl faulted))
  by_cases same : s.transport.server = some server
  · -- it waits on the server that this start has built
    have ok := o.phase
    rw [at_] at ok
    obtain ⟨-, -, current, bound, up⟩ := ok
    obtain rfl : current = server := Option.some.inj (up.symm.trans same)
    by_cases live : current ∈ s.shut
    · obtain ⟨s', ran⟩ := loop_moves config held ⟨by simp, by simp, by simp, by simpa using live⟩
      refine .inl ⟨old, s', unaided_loop held ?_, ran⟩
      intro server' waiting
      cases waiting
      exact same
    · exact .inr (.inl ⟨new, old, current, at_, thread, held, bound, live⟩)
  · exact .inr (.inr (.inr ⟨server, List.mem_of_getElem? held, same⟩))

/-- During a call some thread can go on without help, unless the call is blocked. -/
theorem moves (config : InfrastructureConfig) (o : s.Orderly) (t : s.Threaded)
    (calling : s.phase ≠ .idle) :
    (∃ l s', (l = .ctrl .fine ∨ (∃ i, l = .loop i) ∨ ∃ i, l = .rpc i) ∧ s.Unaided l ∧
      (machine config).step l s = some s') ∨
      s.Hung ∨ Loop.faulted ∈ s.loops ∨ s.Stranded ∨ s.Delayed := by
  by_cases serves : s.phase = .shutdownReturn ∧ s.Serves
  · rcases serving_moves config serves.1 serves.2 with ⟨i, s', own, ran⟩ | delayed
    · exact .inl ⟨_, s', .inr (.inr ⟨i, rfl⟩), own, ran⟩
    · exact .inr (.inr (.inr (.inr delayed)))
  by_cases joins : ∀ new, s.phase = .join new → s.joinable
  · obtain ⟨s', ran⟩ := ctrl_moves config t calling
      (fun at_ still => serves ⟨at_, still⟩) joins
    exact .inl ⟨_, s', .inl rfl, trivial, ran⟩
  simp only [not_forall] at joins
  obtain ⟨new, at_, blocked⟩ := joins
  rcases joining_moves config o t at_ blocked with ⟨i, s', own, ran⟩ | hung | faulted | stranded
  · exact .inl ⟨_, s', .inr (.inl ⟨i, rfl⟩), own, ran⟩
  · exact .inr (.inl hung)
  · exact .inr (.inr (.inl faulted))
  · exact .inr (.inr (.inr (.inl stranded)))

/-- Nothing gets `startAsync` out of it. -/
theorem Hung.step {l : Label} (hung : s.Hung) (ran : (machine config).step l s = some s') :
    s'.Hung ∧ s'.phase = s.phase := by
  obtain ⟨new, old, server, at_, thread, waiting, bound, live⟩ := hung
  have stepped := step_cases ran
  cases l with
  | startAsync | stop =>
      rw [at_] at stepped
      cases stepped.1
  | ctrl w =>
      have joinable : ¬ s.joinable := by
        intro all
        rcases all old thread with done | done <;> rw [waiting] at done <;> cases done
      simp only [ctrl, at_, if_neg joinable] at stepped
      cases stepped
  | loop i =>
      obtain ⟨l, l', isRunning, held, next, rfl⟩ := stepped
      refine ⟨⟨new, old, server, at_, thread, ?_, bound, live⟩, rfl⟩
      have other : i ≠ old := by
        rintro rfl
        rw [waiting] at held
        cases held
        rw [Loop.next, if_neg live] at next
        cases next
      rw [List.getElem?_set_ne other, waiting]
  | accept server' service cameraId =>
      obtain ⟨-, rfl⟩ := stepped
      exact ⟨⟨new, old, server, at_, thread, waiting, bound, live⟩, rfl⟩
  | rpc i =>
      obtain ⟨r, stage, -, -, rfl⟩ := stepped
      exact ⟨⟨new, old, server, at_, thread, waiting, bound, live⟩, rfl⟩

theorem Hung.exec {run : List Label} (hung : s.Hung)
    (ran : (machine config).exec run s = some s') : s'.Hung ∧ s'.phase = s.phase := by
  induction run generalizing s with
  | nil =>
      cases ran
      exact ⟨hung, rfl⟩
  | cons l run ih =>
      simp only [Machine.exec_cons, Option.bind_eq_some_iff] at ran
      obtain ⟨mid, taken, rest⟩ := ran
      obtain ⟨still, same⟩ := hung.step taken
      obtain ⟨end_, last⟩ := ih still rest
      exact ⟨end_, last.trans same⟩

end Sys

/-- The threads take a bounded number of steps, whatever their order. As long as a call has
not returned, one of them can go on without help from outside, unless a run loop has gone
through a null pointer or waits on a server that was destroyed, `startAsync` joins one that
waits on its own server, or `stop` waits for a downstream call. A `startAsync` that hangs so
does for good. -/
theorem calls_end {run : List Label} (reach : (machine config).Reach s)
    (ran : (machine config).exec run s = some s') :
    (run.map Label.work).sum + s'.rank ≤ (run.map Label.credit).sum + s.rank ∧
      (s'.phase = .idle ∨
        (∃ l t, l.work = 1 ∧ s'.Unaided l ∧ (machine config).step l s' = some t) ∨
        s'.Hung ∨ Loop.faulted ∈ s'.loops ∨ s'.Stranded ∨ s'.Delayed) ∧
      (s.Hung → s'.Hung ∧ s'.phase = s.phase) := by
  have reach' : (machine config).Reach s' := reach.of_exec (fun _ _ => trivial) ran
  refine ⟨(potential config).run_le trivial ran, ?_, fun hung => hung.exec ran⟩
  by_cases calling : s'.phase = .idle
  · exact .inl calling
  rcases Sys.moves config (Sys.orderly_of_reach reach') (Sys.threaded_of_reach reach')
    calling with ⟨l, t, own, unaided, step⟩ | blocked
  · refine .inr (.inl ⟨l, t, ?_, unaided, step⟩)
    rcases own with rfl | ⟨i, rfl⟩ | ⟨i, rfl⟩ <;> rfl
  · exact .inr (.inr blocked)

/-- A start, a stop and a second start; the first run loop is scheduled only when the
second server is up. -/
def overtakenRun : List Label :=
  .startAsync :: List.replicate 11 (Label.ctrl .fine) ++ [Label.stop] ++
    List.replicate 14 (Label.ctrl .fine) ++ [Label.startAsync] ++
    List.replicate 10 (Label.ctrl .fine) ++ [Label.loop 0, .loop 0]

/-- The second start hangs in its join, and its server accepts RPCs. -/
theorem late_loop_hangs :
    ∃ s, (machine ⟨∅⟩).exec overtakenRun .init = some s ∧ s.Hung := by
  have ends : ((machine ⟨∅⟩).exec overtakenRun .init).map
      (fun s => (s.phase, s.serviceThread, s.loops[0]?, s.bound, s.shut)) =
        some (.join 1, some 0, some (.waiting 1), [1, 0], [0]) := rfl
  obtain ⟨s, ran, seen⟩ := Option.map_eq_some_iff.mp ends
  simp only [Prod.mk.injEq] at seen
  obtain ⟨phase, thread, waiting, bound, shut⟩ := seen
  refine ⟨s, ran, 1, 0, 1, phase, thread, waiting, ?_, ?_⟩
  · simp [bound]
  · simp [shut]

theorem calls_end_overtakenRun :
    ∃ s s', (machine ⟨∅⟩).exec overtakenRun .init = some s ∧
      (machine ⟨∅⟩).exec [.accept 1 .camera 7, .rpc 0, .rpc 0, .rpc 0] s = some s' ∧
      s'.Hung ∧ s'.phase = s.phase := by
  obtain ⟨s, ran, hung⟩ := late_loop_hangs
  have reach : (machine ⟨∅⟩).Reach s := .of_exec .init (fun _ _ => trivial) ran
  have ends : (((machine ⟨∅⟩).exec overtakenRun .init).bind
      ((machine ⟨∅⟩).exec [.accept 1 .camera 7, .rpc 0, .rpc 0, .rpc 0])).isSome = true := rfl
  rw [ran, Option.bind_some] at ends
  obtain ⟨s', served⟩ := Option.isSome_iff_exists.mp ends
  obtain ⟨still, same⟩ := (calls_end reach served).2.2 hung
  exact ⟨s, s', ran, served, still, same⟩

end SensorCore.Threads
