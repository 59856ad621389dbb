import SensorCore.Threads.Machine

/-!
RPCs in flight against starts, stops and rollbacks.

A server is up from the step that builds it to the step that shuts it down, and
during that time the handler and the core are running and the core has its manager.
`Orderly` says what holds in each phase of the controlling thread: in the phases before
the build and after the shutdown there is no RPC in flight at all, and in the others an
RPC in flight finds everything up. `orderly_step` is its preservation, one case per
phase for the controlling thread and one per stage for an RPC.

`in_flight_safe` is the result: no RPC is refused because something is not running, and
none holds a client pointer when the client maps are cleared.
-/

namespace SensorCore.Threads

open SensorCore.Lib SensorCore.Config SensorCore.Clients SensorCore.Api

namespace Sys

variable (s : Sys)

/-- Some server takes RPCs, or some RPC is in flight. -/
def Busy : Prop := (∃ server, s.Accepts server) ∨ ∃ r ∈ s.rpcs, r.InFlight

/-- What an RPC needs. -/
def Up : Prop :=
  s.handlerRunning = true ∧ s.coreRunning = true ∧ s.clientManager.isSome = true

/-- What holds in a phase, by the order in which the layers come up and go down. -/
def PhaseOk : Phase → Prop
  | .newManager | .fillManager | .cleanup => ¬ s.Busy
  | .coreRaise => ¬ s.Busy ∧ s.clientManager.isSome = true
  | .handlerRaise => ¬ s.Busy ∧ s.clientManager.isSome = true ∧ s.coreRunning = true
  | .build => ¬ s.Busy ∧ s.Up
  | .buildTest selectedPort => s.Up ∧ (s.Busy → selectedPort ≠ 0) ∧
      (selectedPort ≠ 0 → ∀ server, s.transport.server = some server → server ∈ s.bound)
  | .transportRaise => s.Up ∧ ∃ server ∈ s.bound, s.transport.server = some server
  | .apiRaise | .spawn | .join _ =>
      s.Up ∧ s.transport.isRunning = true ∧ ∃ server ∈ s.bound, s.transport.server = some server
  | .idle | .coreTest | .apiTest | .apiLower | .transportTest | .serverTest | .shutdownCall =>
      s.Busy → s.Up ∧ s.transport.isRunning = true
  | .shutdownReturn => (s.Busy → s.Up) ∧
      ∀ server, s.transport.server = some server → server ∈ s.shut
  | .serverReset | .transportLower | .handlerTest | .handlerLower | .coreStopTest | .clear
  | .managerReset | .coreLower => ¬ s.Busy

/-- The invariant. -/
structure Orderly : Prop where
  accepts : ∀ server, s.Accepts server → s.transport.server = some server
  inFlight : ∀ r ∈ s.rpcs, r.InFlight → s.transport.server = some r.server ∧
    (s.Accepts r.server ∨ s.phase = .shutdownReturn)
  phase : s.PhaseOk s.phase
  served : ∀ r ∈ s.rpcs, r.stage ≠ .finished .notRunning ∧ r.stage ≠ .finished .notInitialized ∧
    r.stage ≠ .finished .crashed

variable {s} {s' : Sys}

theorem Orderly.init : Sys.init.Orderly where
  accepts server accepted := absurd accepted.1 List.not_mem_nil
  inFlight r mem := absurd mem List.not_mem_nil
  phase busy := by
    rcases busy with ⟨server, accepted⟩ | ⟨r, mem, -⟩
    · exact absurd accepted.1 List.not_mem_nil
    · exact absurd mem List.not_mem_nil
  served r mem := absurd mem List.not_mem_nil

/-- Wherever something is in flight, everything it needs is up. -/
theorem PhaseOk.up (ok : s.PhaseOk s.phase) (busy : s.Busy) : s.Up := by
  cases h : s.phase <;> rw [h] at ok
  case newManager | fillManager | cleanup | serverReset | transportLower | handlerTest |
      handlerLower | coreStopTest | clear | managerReset | coreLower =>
    exact absurd busy ok
  case coreRaise | handlerRaise => exact absurd busy ok.1
  case build => exact ok.2
  case buildTest | transportRaise | apiRaise | spawn | join => exact ok.1
  case idle | coreTest | apiTest | apiLower | transportTest | serverTest | shutdownCall =>
    exact (ok busy).1
  case shutdownReturn => exact ok.1 busy

/-- A step that leaves the servers and the RPCs alone. -/
theorem Orderly.advance (o : s.Orderly) (rpcs : s'.rpcs = s.rpcs) (bound : s'.bound = s.bound)
    (shut : s'.shut = s.shut) (server : s'.transport.server = s.transport.server)
    (left : s.phase ≠ .shutdownReturn) (phase : s'.PhaseOk s'.phase) : s'.Orderly where
  accepts srv accepted := by
    rw [Accepts, bound, shut] at accepted
    rw [server]
    exact o.accepts srv accepted
  inFlight r mem flying := by
    rw [rpcs] at mem
    obtain ⟨current, accepts | returning⟩ := o.inFlight r mem flying
    · rw [server, Accepts, bound, shut]
      exact ⟨current, .inl accepts⟩
    · exact absurd returning left
  phase := phase
  served r mem := o.served r (rpcs ▸ mem)

/-- Where no server is, nothing is in flight. -/
theorem Orderly.not_busy (o : s.Orderly) (none : s.transport.server = none) : ¬ s.Busy := by
  rintro (⟨server, accepted⟩ | ⟨r, mem, flying⟩)
  · rw [o.accepts server accepted] at none
    cases none
  · rw [(o.inFlight r mem flying).1] at none
    cases none

/-- With nothing in flight and no server open, the servers can change. -/
theorem orderly_build {w : World} (o : s.Orderly) (quiet : ¬ s.Busy) (up : s.Up) :
    (s.build w).Orderly := by
  have idle : ∀ r ∈ s.rpcs, ¬ r.InFlight := fun r mem flying => quiet (.inr ⟨r, mem, flying⟩)
  have fresh : ∀ server, (s.build w).Accepts server →
      w.build = true ∧ w.selectedPort ≠ 0 ∧ server = s.nextServer := by
    rintro server ⟨bound, open_⟩
    have old : server ∉ s.bound := fun mem =>
      quiet (.inl ⟨server, mem, fun shut => open_ (List.mem_append_right _ shut)⟩)
    simp only [Sys.build] at bound
    split at bound
    · rename_i ported
      rcases List.mem_cons.mp bound with new | mem
      · exact ⟨ported.1, ported.2, new⟩
      · exact absurd mem old
    · exact absurd bound old
  refine ⟨?_, fun r mem flying => absurd flying (idle r mem), ⟨up, ?_, ?_⟩, o.served⟩
  · intro server accepted
    obtain ⟨built, -, rfl⟩ := fresh server accepted
    exact if_pos built
  · rintro (⟨server, accepted⟩ | ⟨r, mem, flying⟩)
    · exact (fresh server accepted).2.1
    · exact absurd flying (idle r mem)
  · intro ported server current
    by_cases built : w.build = true
    · simp only [Sys.build, built, ported, ne_eq, not_false_eq_true, and_self, if_true,
        Option.some.injEq] at current ⊢
      simp [current]
    · simp [Sys.build, built] at current

/-- `Shutdown` closes the server; its RPCs stay in flight until it returns. -/
theorem orderly_shutdownCall (o : s.Orderly) (ok : s.Busy → s.Up) :
    Orderly { s with shut := s.transport.server.toList ++ s.shut, phase := .shutdownReturn } := by
  have still : ∀ server, Accepts { s with
      shut := s.transport.server.toList ++ s.shut, phase := .shutdownReturn } server →
        s.Accepts server :=
    fun server accepted => ⟨accepted.1, fun shut => accepted.2 (List.mem_append_right _ shut)⟩
  refine ⟨fun server accepted => o.accepts server (still server accepted),
    fun r mem flying => ⟨(o.inFlight r mem flying).1, .inr rfl⟩, ⟨?_, ?_⟩, o.served⟩
  · rintro (⟨server, accepted⟩ | flying)
    · exact ok (.inl ⟨server, still server accepted⟩)
    · exact ok (.inr flying)
  · intro server current
    simp only at current ⊢
    simp [current]

/-- When `Shutdown` returns nothing is in flight. -/
theorem Orderly.not_busy_of_returned (o : s.Orderly) (empty : ¬ s.Serves)
    (closed : ∀ server, s.transport.server = some server → server ∈ s.shut) : ¬ s.Busy := by
  rintro (⟨server, accepted⟩ | ⟨r, mem, flying⟩)
  · exact accepted.2 (closed server (o.accepts server accepted))
  · exact empty ⟨r, mem, flying, (o.inFlight r mem flying).1⟩

/-- The controlling thread keeps order. -/
theorem orderly_ctrl {config : InfrastructureConfig} {w : World} (o : s.Orderly)
    (ran : s.ctrl config w = some s') : s'.Orderly := by
  have ok := o.phase
  cases h : s.phase <;> rw [h] at ok <;> simp only [ctrl, h] at ran
  case idle => cases ran
  case coreTest =>
    cases running : s.coreRunning with
    | true =>
        rw [running] at ran
        cases ran
        exact o.advance rfl rfl rfl rfl (by simp [h]) ok
    | false =>
        rw [running] at ran
        cases ran
        refine o.advance rfl rfl rfl rfl (by simp [h]) ?_
        intro busy
        rw [(ok busy).1.2.1] at running
        cases running
  case newManager | managerReset =>
    split at ran
    · cases ran
      exact o.advance rfl rfl rfl rfl (by simp [h]) ok
    · cases ran
  case fillManager =>
    split at ran
    · cases ran
    · split at ran
      · cases ran
        exact o.advance rfl rfl rfl rfl (by simp [h]) ⟨ok, rfl⟩
      · cases ran
        exact o.advance rfl rfl rfl rfl (by simp [h]) ok
  case cleanup | coreLower =>
    cases ran
    exact o.advance rfl rfl rfl rfl (by simp [h]) fun busy => absurd busy ok
  case coreRaise =>
    cases ran
    exact o.advance rfl rfl rfl rfl (by simp [h]) ⟨ok.1, ok.2, rfl⟩
  case handlerRaise =>
    cases ran
    exact o.advance rfl rfl rfl rfl (by simp [h]) ⟨ok.1, rfl, ok.2.2, ok.2.1⟩
  case build =>
    cases ran
    exact orderly_build o ok.1 ok.2
  case buildTest selectedPort =>
    obtain ⟨up, ported, current⟩ := ok
    split at ran
    · rename_i failed
      cases ran
      refine o.advance rfl rfl rfl rfl (by simp [h]) ?_
      intro busy
      rcases failed with none | zero
      · exact o.not_busy (Option.isNone_iff_eq_none.mp none) busy
      · exact ported busy zero
    · rename_i opened
      rw [not_or, Option.isNone_iff_eq_none] at opened
      obtain ⟨server, live⟩ := Option.ne_none_iff_exists'.mp opened.1
      cases ran
      exact o.advance rfl rfl rfl rfl (by simp [h]) ⟨up, server, current opened.2 server live, live⟩
  case transportRaise =>
    cases ran
    exact o.advance rfl rfl rfl rfl (by simp [h]) ⟨ok.1, rfl, ok.2⟩
  case apiRaise | spawn | apiLower | transportLower | handlerLower =>
    cases ran
    exact o.advance rfl rfl rfl rfl (by simp [h]) ok
  case join =>
    split at ran
    · cases ran
      exact o.advance rfl rfl rfl rfl (by simp [h]) fun _ => ⟨ok.1, ok.2.1⟩
    · cases ran
  case apiTest =>
    split at ran
    · cases ran
      exact o.advance rfl rfl rfl rfl (by simp [h]) ok
    · cases ran
      exact o.advance rfl rfl rfl rfl (by simp [h]) ok
  case transportTest =>
    cases flag : s.transport.isRunning with
    | true =>
        rw [flag] at ran
        cases ran
        exact o.advance rfl rfl rfl rfl (by simp [h]) ok
    | false =>
        rw [flag] at ran
        cases ran
        refine o.advance rfl rfl rfl rfl (by simp [h]) ?_
        intro busy
        rw [(ok busy).2] at flag
        cases flag
  case serverTest =>
    cases live : s.transport.server with
    | some server =>
        rw [live] at ran
        cases ran
        exact o.advance rfl rfl rfl rfl (by simp [h]) ok
    | none =>
        rw [live] at ran
        cases ran
        exact o.advance rfl rfl rfl rfl (by simp [h]) (o.not_busy live)
  case shutdownCall =>
    cases ran
    exact orderly_shutdownCall o fun busy => (ok busy).1
  case shutdownReturn =>
    split at ran
    · cases ran
    · rename_i empty
      cases ran
      have quiet := o.not_busy_of_returned empty ok.2
      exact ⟨o.accepts, fun r mem flying => absurd (.inr ⟨r, mem, flying⟩) quiet, quiet, o.served⟩
  case serverReset =>
    cases ran
    exact ⟨fun server accepted => absurd (.inl ⟨server, accepted⟩) ok,
      fun r mem flying => absurd (.inr ⟨r, mem, flying⟩) ok, ok, o.served⟩
  case handlerTest | coreStopTest =>
    split at ran
    · cases ran
      exact o.advance rfl rfl rfl rfl (by simp [h]) ok
    · cases ran
      exact o.advance rfl rfl rfl rfl (by simp [h]) fun busy => absurd busy ok
  case clear =>
    split at ran
    · cases ran
      exact o.advance rfl rfl rfl rfl (by simp [h]) ok
    · split at ran
      · cases ran
        exact o.advance rfl rfl rfl rfl (by simp [h]) ok
      · cases ran
        exact o.advance rfl rfl rfl rfl (by simp [h]) fun busy => absurd busy ok

/-! ### Run loops and RPCs -/

/-- What holds in a phase does not depend on the run loops, and on the RPCs only
through what is in flight. -/
theorem PhaseOk.mono {phase : Phase} {isRunning : Bool} {loops : List Loop} {rpcs : List Rpc}
    (busy : Busy { s with isRunning, loops, rpcs } → s.Busy) (ok : s.PhaseOk phase) :
    PhaseOk { s with isRunning, loops, rpcs } phase := by
  cases phase
  case newManager | fillManager | cleanup | serverReset | transportLower | handlerTest |
      handlerLower | coreStopTest | clear | managerReset | coreLower =>
    exact fun flying => ok (busy flying)
  case coreRaise | handlerRaise | build => exact ⟨fun flying => ok.1 (busy flying), ok.2⟩
  case buildTest => exact ⟨ok.1, fun flying => ok.2.1 (busy flying), ok.2.2⟩
  case transportRaise | apiRaise | spawn | join => exact ok
  case idle | coreTest | apiTest | apiLower | transportTest | serverTest | shutdownCall =>
    exact fun flying => ok (busy flying)
  case shutdownReturn => exact ⟨fun flying => ok.1 (busy flying), ok.2⟩

/-- Run loops touch nothing that RPCs depend on. -/
theorem orderly_loop (o : s.Orderly) (loops : List Loop) (isRunning : Bool) :
    Orderly { s with loops, isRunning } :=
  ⟨o.accepts, o.inFlight, o.phase.mono id, o.served⟩

/-- An RPC is accepted where others could be in flight already. -/
theorem orderly_accept (o : s.Orderly) {server : Server} (accepted : s.Accepts server)
    (service : Service) (cameraId : UInt32) :
    Orderly { s with rpcs := s.rpcs ++ [⟨server, service, cameraId, .accepted⟩] } := by
  refine ⟨o.accepts, ?_, o.phase.mono fun _ => .inl ⟨server, accepted⟩, ?_⟩
  · intro r mem flying
    rcases List.mem_append.mp mem with before | new
    · exact o.inFlight r before flying
    · cases List.mem_singleton.mp new
      exact ⟨o.accepts server accepted, .inl accepted⟩
  · intro r mem
    rcases List.mem_append.mp mem with before | new
    · exact o.served r before
    · cases List.mem_singleton.mp new
      simp

theorem inFlight_of_next {r : Rpc} {stage : Stage} (ran : r.next s = some stage) : r.InFlight := by
  intro outcome ended
  rw [Rpc.next, ended] at ran
  cases ran

/-- With everything up, an RPC is not turned away. -/
theorem served_of_next {r : Rpc} {stage : Stage} (up : s.Up) (ran : r.next s = some stage) :
    stage ≠ .finished .notRunning ∧ stage ≠ .finished .notInitialized ∧
      stage ≠ .finished .crashed := by
  obtain ⟨handler, core, manager⟩ := up
  cases at_ : r.stage <;> rw [Rpc.next, at_] at ran
  case accepted =>
    rw [handler] at ran
    cases ran
    simp
  case handlerTested =>
    rw [core] at ran
    cases ran
    simp
  case coreTested =>
    obtain ⟨m, found⟩ := Option.isSome_iff_exists.mp manager
    simp only [found] at ran
    split at ran <;> cases ran <;> simp
  case holding =>
    cases ran
    simp
  case finished => cases ran

theorem orderly_rpc (o : s.Orderly) {i : Nat} {r : Rpc} {stage : Stage} (at_ : s.rpcs[i]? = some r)
    (ran : r.next s = some stage) : Orderly { s with rpcs := s.rpcs.set i { r with stage } } := by
  have mem := List.mem_of_getElem? at_
  have flying := inFlight_of_next ran
  have busy : s.Busy := .inr ⟨r, mem, flying⟩
  refine ⟨o.accepts, ?_, o.phase.mono fun _ => busy, ?_⟩
  · intro r' mem' flying'
    rcases List.mem_or_eq_of_mem_set mem' with before | rfl
    · exact o.inFlight r' before flying'
    · exact o.inFlight r mem flying
  · intro r' mem'
    rcases List.mem_or_eq_of_mem_set mem' with before | rfl
    · exact o.served r' before
    · exact served_of_next (o.phase.up busy) ran

/-- Every step keeps order. -/
theorem orderly_step {config : InfrastructureConfig} {l : Label} (o : s.Orderly)
    (ran : (machine config).step l s = some s') : s'.Orderly := by
  have ok := o.phase
  have stepped := step_cases ran
  cases l with
  | startAsync =>
      obtain ⟨idle, rfl⟩ := stepped
      rw [idle] at ok
      exact o.advance rfl rfl rfl rfl (by simp [idle]) ok
  | stop =>
      obtain ⟨idle, rfl⟩ := stepped
      rw [idle] at ok
      exact o.advance rfl rfl rfl rfl (by simp [idle]) ok
  | ctrl w => exact orderly_ctrl o stepped
  | loop i =>
      obtain ⟨l, l', isRunning, -, -, rfl⟩ := stepped
      exact orderly_loop o _ _
  | accept server service cameraId =>
      obtain ⟨accepted, rfl⟩ := stepped
      exact orderly_accept o accepted service cameraId
  | rpc i =>
      obtain ⟨r, stage, at_, next, rfl⟩ := stepped
      exact orderly_rpc o at_ next

theorem orderly_of_reach {config : InfrastructureConfig} (reach : (machine config).Reach s) :
    s.Orderly :=
  reach.invariant .init fun _ _ _ o _ ran => orderly_step o ran

/-- The next step of the controlling thread clears client maps: it destroys a manager,
cleans up after a failed `initialize`, or shuts the clients down. -/
def Clearing (s : Sys) : Prop :=
  s.phase = .newManager ∨ s.phase = .cleanup ∨ s.phase = .clear ∨ s.phase = .managerReset

/-- No RPC was turned away because something was not running, and none holds a client
pointer while the client maps are cleared. -/
structure InFlightSafe (s : Sys) : Prop where
  served : ∀ r ∈ s.rpcs, r.stage ≠ .finished .notRunning ∧ r.stage ≠ .finished .notInitialized
  held : s.Clearing → ∀ r ∈ s.rpcs, ∀ client, r.stage ≠ .holding client

end Sys

/-- RPCs are safe in every state of every interleaving, whatever fails. -/
theorem in_flight_safe {config : InfrastructureConfig} {s : Sys}
    (reach : (machine config).Reach s) : s.InFlightSafe := by
  have o := Sys.orderly_of_reach reach
  refine ⟨fun r mem => ⟨(o.served r mem).1, (o.served r mem).2.1⟩, ?_⟩
  intro clearing r mem client holding
  have busy : s.Busy := .inr ⟨r, mem, fun outcome ended => by simp [holding] at ended⟩
  have ok := o.phase
  rcases clearing with h | h | h | h <;> rw [h] at ok <;> exact ok busy

/-- A start, an RPC that holds its client while `Shutdown` is called, and the stop up
to the shutdown of the clients. -/
def servedRun : List Label :=
  .startAsync :: List.replicate 11 (Label.ctrl .fine) ++
    [Label.accept 0 .camera 1, .rpc 0, .rpc 0, .rpc 0, .stop] ++
    List.replicate 5 (Label.ctrl .fine) ++ [Label.rpc 0] ++ List.replicate 6 (Label.ctrl .fine)

theorem in_flight_safe_servedRun :
    ∃ s, (machine Core.pairedConfig).exec servedRun .init = some s ∧ s.phase = .clear ∧
      s.rpcs.map Rpc.stage = [.finished .called] ∧ s.InFlightSafe := by
  have ends : ((machine Core.pairedConfig).exec servedRun .init).map
      (fun s => (s.phase, s.rpcs.map Rpc.stage)) = some (.clear, [.finished .called]) := rfl
  obtain ⟨s, ran, seen⟩ := Option.map_eq_some_iff.mp ends
  obtain ⟨phase, stages⟩ := Prod.mk.inj seen
  exact ⟨s, ran, phase, stages, in_flight_safe (.of_exec .init (fun _ _ => trivial) ran)⟩

end SensorCore.Threads
