import SensorCore.Threads.InFlight

/-!
The controller's flag against run loops of earlier starts.

`stop` does not wait for the run loop. A loop that has not looked at the server when
`stop` resets it finds it null and reports an error, and then stores `false` in the
flag; nothing keeps that store from coming after the next start has raised the flag.
`leftover_loop_clears_flag` is such a run: the second start returns success, its server
is up, and the flag is down.

`flag_honest` is a condition under which that does not happen: as long as no failed loop is
waiting to store its `false` when a start raises the flag, the flag is up from a successful
start until a `stop` lowers it. From the raise on no further loop can fail, because the
server is there. That the condition is necessary is not shown, but for the run above.
-/

namespace SensorCore.Threads

open SensorCore.Lib SensorCore.Config SensorCore.Clients SensorCore.Api

/-- The phases of a `stop` that has lowered the flag. -/
def Phase.lowered : Phase → Bool
  | .transportTest | .serverTest | .shutdownCall | .shutdownReturn | .serverReset
  | .transportLower | .handlerTest | .handlerLower | .coreStopTest | .clear | .managerReset
  | .coreLower => true
  | _ => false

/-- The phases in which a start has built its server and not returned. -/
def Phase.opening : Phase → Bool
  | .buildTest _ | .transportRaise | .apiRaise | .spawn | .join _ => true
  | _ => false

namespace Sys

/-- After a successful start, as long as its server is not shut down, its run loop has
not failed and no `stop` has lowered the flag, the flag is up. -/
def FlagHonest (s : Sys) : Prop :=
  ∀ loop server, s.started = some (loop, server) → server ∉ s.shut →
    s.loops[loop]? ≠ some .failed → s.loops[loop]? ≠ some .stored → s.phase.lowered = false →
      s.isRunning = true

/-- No failed loop is about to store its `false` when a start raises the flag. -/
def NoLateFailure (s : Sys) : Label → Prop
  | .ctrl _ => s.phase = .apiRaise → Loop.failed ∉ s.loops
  | _ => True

instance (s : Sys) : (l : Label) → Decidable (s.NoLateFailure l)
  | .ctrl _ => inferInstanceAs (Decidable (s.phase = .apiRaise → Loop.failed ∉ s.loops))
  | .startAsync | .stop | .loop _ | .accept _ _ _ | .rpc _ => isTrue trivial

/-- The flag is owed to a start: to the one that has just raised it, or to the latest
call, with no `stop` past its test. -/
def FlagOwed (s : Sys) : Phase → Prop
  | .spawn | .join _ => True
  | .idle | .coreTest | .apiTest | .apiLower =>
      ∃ loop server, s.started = some (loop, server) ∧ server ∉ s.shut
  | _ => False

/-- The flag is up, and no run loop can clear it. -/
structure FlagSafe (s : Sys) : Prop where
  raised : s.isRunning = true
  server : s.transport.server.isSome = true
  loops : Loop.failed ∉ s.loops

/-- The invariant of the flag. While a start is opening its server, the server of the
latest completed start is closed. -/
structure Flagged (s : Sys) : Prop where
  bound : ∀ loop server, s.started = some (loop, server) → server ∈ s.bound
  past : s.phase.opening = true → ∀ loop server, s.started = some (loop, server) →
    server ∈ s.shut
  owed : s.FlagOwed s.phase → s.FlagSafe

variable {s s' : Sys}

/-- After a call that is not a successful start the flag is owed to nobody. -/
theorem flagged_complete (s : Sys) : s.complete.Flagged where
  bound loop server started := by cases started
  past opening := by cases opening
  owed owed := by
    obtain ⟨loop, server, started, -⟩ := owed
    cases started

/-- A step to a phase in which nothing is opening and nothing is owed. -/
theorem Flagged.still (f : s.Flagged) (started : s'.started = s.started)
    (bound : s'.bound = s.bound) (closed : s'.phase.opening = false)
    (free : ¬ s'.FlagOwed s'.phase) : s'.Flagged where
  bound loop server last := by
    rw [bound]
    exact f.bound loop server (started ▸ last)
  past opening := by
    rw [closed] at opening
    cases opening
  owed owed := absurd owed free

/-- A step that leaves the flag, the server and the loops alone. -/
theorem FlagSafe.congr (safe : s.FlagSafe) (flag : s'.isRunning = s.isRunning)
    (server : s'.transport.server = s.transport.server) (loops : s'.loops = s.loops) :
    s'.FlagSafe where
  raised := by rw [flag, safe.raised]
  server := by rw [server, safe.server]
  loops := by
    rw [loops]
    exact safe.loops

/-- A step of the controlling thread to a phase that owes the flag to the same start. -/
theorem Flagged.handOn (f : s.Flagged) {phase : Phase} (closed : phase.opening = false)
    (same : s.FlagOwed phase → s.FlagOwed s.phase) : Flagged { s with phase } where
  bound := f.bound
  past opening := by
    rw [closed] at opening
    cases opening
  owed due := (f.owed (same due)).congr rfl rfl rfl

/-- The server of the latest start takes RPCs until it is shut down. -/
theorem Flagged.accepts (f : s.Flagged) {loop : Nat} {server : Server}
    (started : s.started = some (loop, server)) (live : server ∉ s.shut) : s.Accepts server :=
  ⟨f.bound loop server started, live⟩

/-- A start that gets to its server follows one that was shut down. -/
theorem Flagged.past_of_quiet (f : s.Flagged) (quiet : ¬ s.Busy) {loop : Nat} {server : Server}
    (started : s.started = some (loop, server)) : server ∈ s.shut := by
  by_contra live
  exact quiet (.inl ⟨server, f.accepts started live⟩)

/-- The controlling thread keeps the flag, when no failed loop is pending at a raise. -/
theorem flagged_ctrl {config : InfrastructureConfig} {w : World} (o : s.Orderly) (f : s.Flagged)
    (guard : s.phase = .apiRaise → Loop.failed ∉ s.loops)
    (ran : s.ctrl config w = some s') : s'.Flagged := by
  have ok := o.phase
  have past := f.past
  have owed := f.owed
  cases h : s.phase <;> rw [h] at ok past owed <;> simp only [ctrl, h] at ran
  case idle => cases ran
  case coreTest =>
    split at ran
    · cases ran
      exact flagged_complete s
    · cases ran
      exact f.still rfl rfl rfl id
  case newManager | managerReset =>
    split at ran
    · cases ran
      exact f.still rfl rfl rfl id
    · cases ran
  case fillManager =>
    split at ran
    · cases ran
    · split at ran
      · cases ran
        exact f.still rfl rfl rfl id
      · cases ran
        exact f.still rfl rfl rfl id
  case cleanup | coreLower =>
    cases ran
    exact flagged_complete _
  case coreRaise | handlerRaise | apiLower | shutdownCall | serverReset | transportLower |
      handlerLower =>
    cases ran
    exact f.still rfl rfl rfl id
  case build =>
    cases ran
    refine ⟨?_, ?_, fun owed => owed.elim⟩
    · intro loop server started
      have before := f.bound loop server started
      simp only [Sys.build]
      split
      · exact List.mem_cons_of_mem _ before
      · exact before
    · intro _ loop server started
      exact List.mem_append_right _ (f.past_of_quiet ok.1 started)
  case buildTest =>
    split at ran
    · cases ran
      exact f.still rfl rfl rfl id
    · cases ran
      exact ⟨f.bound, fun _ => past rfl, fun owed => owed.elim⟩
  case transportRaise =>
    cases ran
    exact ⟨f.bound, fun _ => past rfl, fun owed => owed.elim⟩
  case apiRaise =>
    obtain ⟨-, -, server, -, live⟩ := ok
    cases ran
    exact ⟨f.bound, fun _ => past rfl, fun _ => ⟨rfl, Option.isSome_iff_exists.mpr ⟨server, live⟩,
      guard h⟩⟩
  case spawn =>
    obtain ⟨raised, server, loops⟩ := owed trivial
    cases ran
    refine ⟨f.bound, fun _ => past rfl, fun _ => ⟨raised, server, ?_⟩⟩
    simp [loops]
  case join loop =>
    obtain ⟨-, -, server, mem, live⟩ := ok
    obtain ⟨raised, up, loops⟩ := owed trivial
    split at ran
    · cases ran
      refine ⟨?_, ?_, fun _ => ⟨raised, up, loops⟩⟩
      · intro loop' server' started
        simp only [live, Option.map_some, Option.some.injEq, Prod.mk.injEq] at started
        exact started.2 ▸ mem
      · intro opening
        cases opening
    · cases ran
  case apiTest =>
    split at ran
    · cases ran
      apply f.handOn rfl
      rw [h]
      exact id
    · cases ran
      exact flagged_complete s
  case transportTest | serverTest =>
    cases ran
    refine f.still rfl rfl ?_ ?_ <;> dsimp only <;> split <;> first | rfl | exact id
  case shutdownReturn =>
    split at ran
    · cases ran
    · cases ran
      exact f.still rfl rfl rfl id
  case handlerTest | coreStopTest =>
    split at ran
    · cases ran
      exact f.still rfl rfl rfl id
    · cases ran
      exact flagged_complete s
  case clear =>
    split at ran
    · cases ran
      exact f.still rfl rfl rfl id
    · split at ran
      · cases ran
        exact f.still rfl rfl rfl id
      · cases ran
        exact flagged_complete _

/-- With a server there and no failed loop, a run loop neither fails nor clears the
flag. -/
theorem FlagSafe.loop {i : Nat} {l l' : Loop} {isRunning : Bool} (safe : s.FlagSafe)
    (at_ : s.loops[i]? = some l) (ran : l.next s = some (l', isRunning)) :
    FlagSafe { s with loops := s.loops.set i l', isRunning } := by
  obtain ⟨raised, server, loops⟩ := safe
  have others : l' ≠ .failed → Loop.failed ∉ s.loops.set i l' := by
    intro fine mem
    rcases List.mem_or_eq_of_mem_set mem with before | new
    · exact loops before
    · exact fine new.symm
  obtain ⟨current, live⟩ := Option.isSome_iff_exists.mp server
  cases l with
  | spawned =>
      simp only [Loop.next, live] at ran
      cases ran
      exact ⟨raised, server, others (by simp)⟩
  | tested =>
      simp only [Loop.next, live] at ran
      cases ran
      exact ⟨raised, server, others (by simp)⟩
  | waiting waited =>
      simp only [Loop.next] at ran
      split at ran
      · cases ran
        exact ⟨raised, server, others (by simp)⟩
      · cases ran
  | failed => exact absurd (List.mem_of_getElem? at_) loops
  | finished => cases ran
  | stored => cases ran
  | faulted => cases ran

/-- Every step keeps the flag, when no failed loop is pending at a raise. -/
theorem flagged_step {config : InfrastructureConfig} {l : Label} (o : s.Orderly) (f : s.Flagged)
    (guard : s.NoLateFailure l) (ran : (machine config).step l s = some s') : s'.Flagged := by
  have stepped := step_cases ran
  cases l with
  | startAsync =>
      obtain ⟨idle, rfl⟩ := stepped
      apply f.handOn rfl
      rw [idle]
      exact id
  | stop =>
      obtain ⟨idle, rfl⟩ := stepped
      apply f.handOn rfl
      rw [idle]
      exact id
  | ctrl w => exact flagged_ctrl o f guard stepped
  | loop i =>
      obtain ⟨l, l', isRunning, at_, next, rfl⟩ := stepped
      exact ⟨f.bound, f.past, fun due => (f.owed due).loop at_ next⟩
  | accept server service cameraId =>
      obtain ⟨-, rfl⟩ := stepped
      exact ⟨f.bound, f.past, fun due => (f.owed due).congr rfl rfl rfl⟩
  | rpc i =>
      obtain ⟨r, stage, -, -, rfl⟩ := stepped
      exact ⟨f.bound, f.past, fun due => (f.owed due).congr rfl rfl rfl⟩

theorem Flagged.init : Sys.init.Flagged where
  bound loop server started := by cases started
  past opening := by cases opening
  owed due := by
    obtain ⟨loop, server, started, -⟩ := due
    cases started

theorem flagged_of_reach {config : InfrastructureConfig}
    (reach : (machine config).ReachVia NoLateFailure s) : s.Flagged :=
  reach.invariant_under
    (fun _ before => orderly_of_reach (before.mono fun _ _ _ => trivial))
    .init fun _ _ _ o f guard ran => flagged_step o f guard ran

end Sys

/-- In a run in which no failed loop is pending when a start raises the flag, the flag
is up whenever it should be. -/
theorem flag_honest {config : InfrastructureConfig} {s : Sys}
    (reach : (machine config).ReachVia Sys.NoLateFailure s) : s.FlagHonest := by
  have o := Sys.orderly_of_reach (reach.mono fun _ _ _ => trivial)
  have f := Sys.flagged_of_reach reach
  intro loop server started live _ _ below
  have busy : s.Busy := .inl ⟨server, f.accepts started live⟩
  have ok := o.phase
  have past := f.past
  have owed := f.owed
  cases h : s.phase <;> rw [h] at ok past owed below
  case idle | coreTest | apiTest | apiLower => exact (owed ⟨loop, server, started, live⟩).raised
  case buildTest | transportRaise | apiRaise | spawn | join =>
    exact absurd (past rfl loop server started) live
  case newManager | fillManager | cleanup => exact absurd busy ok
  case coreRaise | handlerRaise | build => exact absurd busy ok.1
  case transportTest | serverTest | shutdownCall | shutdownReturn | serverReset | transportLower |
      handlerTest | handlerLower | coreStopTest | clear | managerReset | coreLower => cases below

/-- A cycle whose loop ends in time, and a second start. -/
def timelyRun : List Label :=
  .startAsync :: List.replicate 11 (Label.ctrl .fine) ++ [Label.loop 0, .loop 0, .stop] ++
    List.replicate 5 (Label.ctrl .fine) ++ [Label.loop 0] ++ List.replicate 9 (Label.ctrl .fine) ++
    Label.startAsync :: List.replicate 11 (Label.ctrl .fine)

theorem flag_honest_timelyRun :
    ∃ s, ((machine ⟨∅⟩).restrict Sys.NoLateFailure).exec timelyRun .init = some s ∧
      s.started = some (1, 1) ∧ s.FlagHonest := by
  have ends : (((machine ⟨∅⟩).restrict Sys.NoLateFailure).exec timelyRun .init).map
      (fun s => s.started) = some (some (1, 1)) := rfl
  obtain ⟨s, ran, started⟩ := Option.map_eq_some_iff.mp ends
  exact ⟨s, ran, started, flag_honest (.of_restrict (.of_exec .init (fun _ _ => trivial) ran))⟩

/-- The same, but the first loop looks at the server only after the first stop, and its
store comes right after the second start has raised the flag. -/
def lateRun : List Label :=
  .startAsync :: List.replicate 11 (Label.ctrl .fine) ++
    Label.stop :: List.replicate 14 (Label.ctrl .fine) ++
    [Label.loop 0, .startAsync] ++ List.replicate 9 (Label.ctrl .fine) ++
    [Label.loop 0, .ctrl .fine, .ctrl .fine]

theorem leftover_loop_clears_flag :
    ¬ ∀ (config : InfrastructureConfig) (s : Sys), (machine config).Reach s → s.FlagHonest := by
  intro honest
  have ends : ((machine ⟨∅⟩).exec lateRun .init).map
      (fun s => (s.phase, s.started, s.shut, s.loops, s.isRunning)) =
        some (.idle, some (1, 1), [0], [.stored, .spawned], false) := rfl
  obtain ⟨s, ran, seen⟩ := Option.map_eq_some_iff.mp ends
  simp only [Prod.mk.injEq] at seen
  obtain ⟨phase, started, shut, loops, down⟩ := seen
  have up := honest ⟨∅⟩ s (.of_exec .init (fun _ _ => trivial) ran) 1 1 started
    (by simp [shut]) (by simp [loops]) (by simp [loops]) (by simp [phase, Phase.lowered])
  rw [down] at up
  cases up

end SensorCore.Threads
