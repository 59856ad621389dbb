import SensorCore.App.Process

/-!
The way from a signal to the exit.

`Process.rank` bounds the steps that are left: those of `main` from where it is to its
exit, those of the run loop, and four for each RPC. It does not bound the loop of `run`,
so it counts once a signal has come or `main` is past that loop (`Leaving`); from then on
the process does no more than that, whatever the order of steps and whatever RPCs come in.

`exits_on_signal` says what can keep it from its end all the same. A run loop has gone
through a null pointer, or is in `Wait` on the server that the stop has destroyed; or the
stop waits in `Shutdown` for a downstream call, which has no deadline.
-/

namespace SensorCore.App

open SensorCore.Lib SensorCore.Config SensorCore.Clients SensorCore.Api SensorCore.Threads

/-- How many steps `main` still takes at most, apart from those of the call it is in. -/
def Main.rank : Main → Nat
  | .exited _ | .aborted => 0
  | .destroyingManager _ | .destroyingCore _ => 1
  | .destroyingHandler _ => 5
  | .drainingServer _ => 6
  | .destroyingServer _ | .destroyingTransport _ => 7
  | .joiningService _ | .destroyingController _ => 20
  | .stopping => 34
  | .pollingSignal => 49
  | .pollingController => 50
  | .sleeping | .starting => 51
  | .initializing => 65

def Process.rank (p : Process) : Nat := 4 * p.main.rank + p.sys.rank

/-- The steps that the process takes by itself. -/
def Event.work : Event → Nat
  | .main _ | .loop _ | .rpc _ => 1
  | .signal | .accept _ _ _ => 0

def Event.credit : Event → Nat
  | .accept _ _ _ => 4
  | .main _ | .signal | .loop _ | .rpc _ => 0

/-- `main` is past the loop of `run`. -/
def Main.Past : Main → Prop
  | .initializing | .starting | .pollingController | .pollingSignal | .sleeping => False
  | _ => True

/-- A signal has come, or `main` is past the loop of `run`. -/
def Process.Leaving (p : Process) : Prop := p.shutdownRequested = true ∨ p.main.Past

/-- The step needs nothing from outside: neither the end of a downstream call, nor that of a
`Wait` on a server that was destroyed. -/
def Process.Unaided (p : Process) (e : Event) : Prop :=
  ∀ l, e.other = some l → p.sys.Unaided l

theorem Process.Unaided.main {p : Process} (w : World) : p.Unaided (.main w) := by
  intro l other
  cases other

variable {config : InfrastructureConfig} {booted : Bool}

theorem rank_phase (s : Sys) (phase : Phase) :
    Sys.rank { s with phase } + 4 * s.phase.rank = s.rank + 4 * phase.rank := by
  simp only [Sys.rank]
  omega

/-- A call is entered with the steps it takes at most. -/
theorem rank_enter (s : Sys) (phase : Phase) {n : Nat} (steps : phase.rank = n) :
    Sys.rank { s with phase } ≤ s.rank + 4 * n := by
  have moved := rank_phase s phase
  omega

/-- Inside a call, `main` gets on with it. -/
theorem call_spends {w : World} {p p' : Process} {target : Phase} {returned : Sys → Main × Phase}
    (working : 1 ≤ p.main.rank)
    (lower : ∀ s, (returned s).1.rank + (returned s).2.rank ≤ p.main.rank + target.rank)
    (ran : p.call config w (Process.reached target) returned = some p') : p'.rank < p.rank := by
  unfold Process.call at ran
  split at ran
  · rename_i s step
    have paid : 1 + s.rank ≤ 0 + p.sys.rank :=
      (potential config).paid p.sys s (.ctrl w) trivial step
    split at ran
    · rename_i done
      cases ran
      have there := Process.reached_iff.mp done
      have moved := rank_phase s (returned s).2
      have less := lower s
      rw [there] at moved
      simp only [Process.rank]
      omega
    · cases ran
      simp only [Process.rank]
      omega
  · split at ran
    · cases ran
      change 4 * 0 + p.sys.rank < 4 * p.main.rank + p.sys.rank
      omega
    · cases ran

/-- A call leaves the signal alone, and leads to where it returns to. -/
theorem call_kept {w : World} {p p' : Process} {ended : Phase → Bool}
    {returned : Sys → Main × Phase} (past : p.main.Past → ∀ s, (returned s).1.Past)
    (ran : p.call config w ended returned = some p') :
    p'.shutdownRequested = p.shutdownRequested ∧ (p.main.Past → p'.main.Past) := by
  unfold Process.call at ran
  split at ran
  · rename_i s step
    split at ran
    · cases ran
      exact ⟨rfl, fun here => past here s⟩
    · cases ran
      exact ⟨rfl, id⟩
  · split at ran
    · cases ran
      exact ⟨rfl, fun _ => trivial⟩
    · cases ran

theorem next_kept {w : World} {p p' : Process} (ran : p.next booted config w = some p') :
    p'.shutdownRequested = p.shutdownRequested ∧ (p.main.Past → p'.main.Past) := by
  obtain ⟨main, s, requested⟩ := p
  cases main with
  | initializing | pollingController | pollingSignal =>
      simp only [Process.next, Option.some.injEq] at ran
      split at ran <;> subst ran <;> exact ⟨rfl, False.elim⟩
  | starting => exact call_kept False.elim ran
  | sleeping =>
      cases ran
      exact ⟨rfl, False.elim⟩
  | stopping | destroyingController code | destroyingTransport code | destroyingHandler code
  | destroyingCore code =>
      refine call_kept ?_ ran
      exact fun _ _ => trivial
  | joiningService code | drainingServer code =>
      simp only [Process.next] at ran
      split at ran <;> cases ran
      exact ⟨rfl, fun _ => trivial⟩
  | destroyingServer code =>
      cases ran
      exact ⟨rfl, fun _ => trivial⟩
  | destroyingManager code =>
      simp only [Process.next, Option.some.injEq] at ran
      split at ran <;> subst ran <;> exact ⟨rfl, fun _ => trivial⟩
  | exited code => cases ran
  | aborted => cases ran

/-- Once `main` is leaving, each of its steps brings it closer to the exit. -/
theorem next_spends {w : World} {p p' : Process} (leaving : p.Leaving)
    (ran : p.next booted config w = some p') : p'.rank < p.rank := by
  obtain ⟨main, s, requested⟩ := p
  cases main with
  | initializing =>
      have moved := rank_enter s .coreTest (n := 13) rfl
      simp only [Process.next, Option.some.injEq] at ran
      split at ran
      · subst ran
        simp only [Process.rank, Main.rank]
        omega
      · subst ran
        simp only [Process.rank, Main.rank]
        omega
  | starting =>
      refine call_spends (by simp [Main.rank]) ?_ ran
      intro s'
      split <;> simp [Main.rank, Phase.rank]
  | pollingController =>
      have moved := rank_enter s .apiTest (n := 14) rfl
      simp only [Process.next, Option.some.injEq] at ran
      split at ran
      · subst ran
        simp only [Process.rank, Main.rank]
        omega
      · subst ran
        simp only [Process.rank, Main.rank]
        omega
  | pollingSignal =>
      have moved := rank_enter s .apiTest (n := 14) rfl
      obtain signalled | past := leaving
      · simp only at signalled
        simp only [Process.next, signalled, if_true, Option.some.injEq] at ran
        subst ran
        simp only [Process.rank, Main.rank]
        omega
      · exact past.elim
  | sleeping =>
      cases ran
      simp only [Process.rank, Main.rank]
      omega
  | stopping | destroyingController code | destroyingTransport code | destroyingHandler code
  | destroyingCore code =>
      exact call_spends (by simp [Main.rank]) (by simp [Main.rank, Phase.rank]) ran
  | joiningService code =>
      have moved := rank_enter s .transportTest (n := 12) rfl
      simp only [Process.next] at ran
      split at ran
      · cases ran
        simp only [Process.rank, Main.rank]
        omega
      · cases ran
  | destroyingServer code =>
      cases ran
      simp only [Process.rank, Main.rank, Sys.rank]
      omega
  | drainingServer code =>
      simp only [Process.next] at ran
      split at ran
      · cases ran
      · cases ran
        simp only [Process.rank, Main.rank, Sys.rank]
        omega
  | destroyingManager code =>
      simp only [Process.next, Option.some.injEq] at ran
      split at ran
      · subst ran
        simp only [Process.rank, Main.rank, Sys.rank]
        omega
      · subst ran
        simp only [Process.rank, Main.rank]
        omega
  | exited code => cases ran
  | aborted => cases ran

/-- Once `main` is leaving, the process does no more than what is left and what the RPCs
bring that come in. -/
theorem process_potential (booted : Bool) (config : InfrastructureConfig) :
    (process booted config).Potential Process.Leaving Event.work Event.credit Process.rank := by
  refine ⟨?_, ?_⟩
  · intro p p' e leaving ran
    rcases process_cases ran with ⟨w, -, next⟩ | ⟨-, -, rfl⟩ | ⟨l, s, -, -, -, rfl⟩
    · obtain ⟨same, past⟩ := next_kept next
      rcases leaving with signalled | here
      · exact .inl (same.trans signalled)
      · exact .inr (past here)
    · exact .inl rfl
    · exact leaving
  · intro p p' e leaving ran
    rcases process_cases ran with ⟨w, rfl, next⟩ | ⟨rfl, -, rfl⟩ | ⟨l, s, other, -, step, rfl⟩
    · have lower := next_spends leaving next
      simp only [Event.work, Event.credit]
      omega
    · exact Nat.le_refl _
    · have paid := (potential config).paid p.sys s l trivial step
      cases e <;> cases other <;> simp only [Label.work, Label.credit] at paid <;>
        simp only [Event.work, Event.credit, Process.rank] <;> omega

/-! ### No way is blocked -/

/-- Inside a call some thread can go on without help, unless the call is blocked. -/
theorem call_moves {p : Process} (sound : Sound config p) {ended : Phase → Bool}
    {returned : Sys → Main × Phase}
    (inside : ∀ w, p.next booted config w = p.call config w ended returned)
    (calling : p.sys.phase ≠ .idle) (alive : p.Alive) (unjoined : ¬ p.sys.Hung) :
    (∃ e p', e.work = 1 ∧ p.Unaided e ∧ (process booted config).step e p = some p') ∨
      Loop.faulted ∈ p.sys.loops ∨ p.sys.Stranded ∨ p.sys.Delayed := by
  rcases Sys.moves config sound.consistent.orderly sound.consistent.threaded calling with
    ⟨l, s, own, unaided, step⟩ | hung | blocked
  · left
    rcases own with rfl | ⟨i, rfl⟩ | ⟨i, rfl⟩
    · refine ⟨.main .fine, ?_⟩
      have ctrl : p.sys.ctrl config .fine = some s := step
      cases done : ended s.phase with
      | true =>
          exact ⟨_, rfl, .main .fine,
            by simp only [process, inside, Process.call, ctrl, done, if_true]; rfl⟩
      | false =>
          exact ⟨_, rfl, .main .fine, by
            simp only [process, inside, Process.call, ctrl, done, Bool.false_eq_true, if_false]
            rfl⟩
    · refine ⟨.loop i, { p with sys := s }, rfl, ?_, by simp [process, alive, step]⟩
      rintro - ⟨⟩
      exact unaided
    · refine ⟨.rpc i, { p with sys := s }, rfl, ?_, by simp [process, alive, step]⟩
      rintro - ⟨⟩
      exact unaided
  · exact absurd hung unjoined
  · exact .inr blocked

/-- A run loop that the destructor of the service thread waits for can go on, unless it is
in `Wait`: the server is gone by then. -/
theorem join_moves {p : Process} (sound : Sound config p) (down : p.sys.Down) (alive : p.Alive)
    (blocked : ¬ p.sys.joinable) :
    (∃ e p', e.work = 1 ∧ p.Unaided e ∧ (process booted config).step e p = some p') ∨
      Loop.faulted ∈ p.sys.loops ∨ p.sys.Stranded := by
  rcases Sys.unjoined_moves config sound.consistent.threaded blocked with
    ⟨i, s, unaided, step⟩ | faulted | ⟨old, server, thread, held⟩
  · refine .inl ⟨.loop i, { p with sys := s }, rfl, ?_, by simp [process, alive, step]⟩
    rintro - ⟨⟩
    exact unaided
  · exact .inr (.inl faulted)
  · have gone : p.sys.transport.server = none := by
      rcases down.threads with ⟨-, none⟩ | ⟨-, -, gone⟩
      · rw [none] at thread
        cases thread
      · exact gone
    exact .inr (.inr ⟨server, List.mem_of_getElem? held, by simp [gone]⟩)

/-- Until its end the process can go on without help, unless it is blocked. -/
theorem process_moves {p : Process} (sound : Sound config p) (alive : p.Alive) :
    (∃ e p', e.work = 1 ∧ p.Unaided e ∧ (process booted config).step e p = some p') ∨
      Loop.faulted ∈ p.sys.loops ∨ p.sys.Stranded ∨ p.sys.Delayed := by
  have holds := sound.holds
  have main : ∀ p', p.next booted config .fine = some p' →
      ∃ e p', e.work = 1 ∧ p.Unaided e ∧ (process booted config).step e p = some p' :=
    fun p' step => ⟨.main .fine, p', rfl, .main .fine, step⟩
  have unhung : (∀ i, p.sys.phase ≠ .join i) → ¬ p.sys.Hung := by
    rintro unjoined ⟨new, -, -, join, -⟩
    exact unjoined new join
  have below : p.sys.phase.level ≤ 4 → ∀ i, p.sys.phase ≠ .join i := by
    intro low i join
    rw [join] at low
    exact absurd low (by simp [Phase.level])
  cases at_ : p.main <;> rw [at_] at holds
  case initializing | pollingController | pollingSignal | sleeping | destroyingServer |
      destroyingManager =>
    exact .inl (main _ (by simp only [Process.next, at_]; rfl))
  case starting =>
    obtain ⟨calling, starting⟩ := holds
    refine call_moves sound (fun w => by simp only [Process.next, at_]; rfl) calling alive ?_
    rintro ⟨-, old, -, -, thread, -⟩
    rw [starting.thread] at thread
    cases thread
  case stopping =>
    obtain ⟨calling, low⟩ := Sys.Stopping.level holds
    exact call_moves sound (fun w => by simp only [Process.next, at_]; rfl) calling alive
      (unhung (below low))
  case destroyingController code =>
    have phase := holds.1
    refine call_moves sound (fun w => by simp only [Process.next, at_]; rfl) ?_ alive ?_
    · simp [phase]
    · exact unhung (by simp [phase])
  case joiningService code =>
    by_cases joinable : p.sys.joinable
    · exact .inl (main _ (by simp only [Process.next, at_, if_pos joinable]; rfl))
    · rcases join_moves sound holds.2 alive joinable with moving | faulted | stranded
      · exact .inl moving
      · exact .inr (.inl faulted)
      · exact .inr (.inr (.inl stranded))
  case destroyingTransport code | destroyingCore code =>
    have level := holds.1
    refine call_moves sound (fun w => by simp only [Process.next, at_]; rfl) ?_ alive
      (unhung (below (by omega)))
    intro idle
    rw [idle] at level
    exact absurd level (by simp [Phase.level])
  case destroyingHandler code =>
    have level := holds.1
    refine call_moves sound (fun w => by simp only [Process.next, at_]; rfl) ?_ alive
      (unhung (below (by omega)))
    intro idle
    rw [idle] at level
    exact absurd level (by simp [Phase.level])
  case drainingServer code =>
    have quiet := sound.consistent.orderly.phase
    rw [holds.1] at quiet
    have served : ¬ p.sys.Serves := by
      rintro ⟨r, mem, flying, -⟩
      exact quiet (.inr ⟨r, mem, flying⟩)
    exact .inl (main _ (by simp only [Process.next, at_, if_neg served]; rfl))
  case exited code => exact absurd at_ (alive.2 code)
  case aborted => exact absurd at_ alive.1

/-- From a signal on, the process does a bounded amount of work, whatever the order of
the steps and whatever RPCs come in. At any point it has exited, an exception has left a
destructor, or some thread can go on without help from outside; unless a run loop has gone
through a null pointer or is in `Wait` on a server that was destroyed, or the stop waits for
a downstream call. -/
theorem exits_on_signal {p p' : Process} {run : List Event}
    (reach : (process booted config).Reach p) (leaving : p.Leaving)
    (ran : (process booted config).exec run p = some p') :
    (run.map Event.work).sum + p'.rank ≤ (run.map Event.credit).sum + p.rank ∧
      ((∃ code, p'.main = .exited code) ∨ p'.main = .aborted ∨
        (∃ e q, e.work = 1 ∧ p'.Unaided e ∧ (process booted config).step e p' = some q) ∨
        Loop.faulted ∈ p'.sys.loops ∨ p'.sys.Stranded ∨ p'.sys.Delayed) := by
  refine ⟨(process_potential booted config).run_le leaving ran, ?_⟩
  have sound : Sound config p' := sound_of_reach (reach.of_exec (fun _ _ => trivial) ran)
  by_cases alive : p'.Alive
  · exact .inr (.inr (process_moves sound alive))
  · simp only [Process.Alive, not_and_or, not_forall, not_not] at alive
    rcases alive with aborted | exited
    · exact .inr (.inl aborted)
    · exact .inl exited

/-- A start that gets its signal before it returns. -/
def earlySignalRun : List Event :=
  List.replicate 9 (Event.main .fine) ++ [Event.signal]

/-- The rest: two RPCs come in before the shutdown, and the process exits. -/
def departingRun : List Event :=
  List.replicate 5 (Event.main .fine) ++ [Event.accept 0 .camera 0, .loop 0, .loop 0] ++
    List.replicate 4 (Event.main .fine) ++ [Event.accept 0 .video 5] ++
    [Event.main .fine, .rpc 0, .rpc 1, .rpc 0, .rpc 1, .rpc 0, .rpc 1, .rpc 0, .loop 0] ++
    List.replicate 17 (Event.main .fine)

theorem exits_on_signal_departingRun :
    ∃ p p', (process true Core.pairedConfig).exec earlySignalRun .init = some p ∧
      (process true Core.pairedConfig).exec departingRun p = some p' ∧
      p'.main = .exited .success ∧ (departingRun.map Event.work).sum ≤ 8 + p.rank := by
  have starts : ((process true Core.pairedConfig).exec earlySignalRun .init).map
      Process.shutdownRequested = some true := rfl
  obtain ⟨p, early, signalled⟩ := Option.map_eq_some_iff.mp starts
  have ends : (((process true Core.pairedConfig).exec earlySignalRun .init).bind
      ((process true Core.pairedConfig).exec departingRun)).map Process.main =
        some (.exited .success) := rfl
  rw [early, Option.bind_some] at ends
  obtain ⟨p', departs, exited⟩ := Option.map_eq_some_iff.mp ends
  have bounded := (exits_on_signal (.of_exec .init (fun _ _ => trivial) early) (.inl signalled)
    departs).1
  have credit : (departingRun.map Event.credit).sum = 8 := rfl
  exact ⟨p, p', early, departs, exited, by omega⟩

end SensorCore.App
