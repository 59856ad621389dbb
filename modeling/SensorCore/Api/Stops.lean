import SensorCore.Api.Controller

/-!
What a successful `stop` is worth.

A component is up after a start that succeeds and down after a stop that succeeds;
calls that fail leave it as it was. `Lawful` states this of any component, and a
core moreover refuses to start when it is up.

`ApiController::stop` is honest in a step when its success means that transport and
core are down. It returns success without a look at the layers when the flag is
down, so honesty fails where the flag is down and a layer is up: after a stop that
failed, after a run loop that failed, after a rollback that failed. `Guarded` is
the condition on the state before the call; `stops_honest_iff` shows that a run is
honest exactly when each of its stops is guarded, and that a run in which no stop of
a component and no run loop fails is guarded throughout.
-/

namespace SensorCore.Api

open SensorCore.Lib

/-! ### Components -/

/-- Only a start that succeeds takes a component up, only a stop that succeeds
takes it down. -/
structure Lawful {In Out σ : Type} (start : In → σ → Option (Result Unit × σ))
    (stop : Out → σ → Option (Result Unit × σ)) (up : σ → Prop) : Prop where
  start_ok : ∀ {o s s'}, start o s = some (.ok (), s') → up s'
  start_error : ∀ {o s s' e}, start o s = some (.error e, s') → (up s' ↔ up s)
  stop_ok : ∀ {o s s'}, stop o s = some (.ok (), s') → ¬ up s'
  stop_error : ∀ {o s s' e}, stop o s = some (.error e, s') → (up s' ↔ up s)

/-- A core refuses to start when it is up. -/
structure ICore.Lawful {In Out κ : Type} (I : ICore In Out κ) (up : κ → Prop) : Prop
    extends Api.Lawful I.start I.stop up where
  refuses : ∀ {o k k' r}, up k → I.start o k = some (r, k') → ∃ e, r = .error e

namespace ApiController

variable {TIn TOut CIn COut τ κ : Type}

section Conditions

variable (T : ITransport TIn TOut τ) (I : ICore CIn COut κ) (upT : τ → Prop) (upC : κ → Prop)

/-- Transport and core are down. -/
def Down (c : ApiController τ κ) : Prop := ¬ upT c.transport ∧ ¬ upC c.requestHandler.core

/-- A controller that was just constructed over components that are down. -/
structure Fresh (c : ApiController τ κ) : Prop where
  isRunning : c.isRunning = false
  handler : c.requestHandler.isRunning = false
  down : c.Down upT upC

/-- If the step is a `stop` that succeeds, both layers are down after it. -/
def Honest (c : ApiController τ κ) (e : Event CIn TIn COut TOut) : Prop :=
  ∀ o after, e = .stop o → c.stop T I o = some (.ok (), after) → after.Down upT upC

/-- If the step is a `stop`, the flag is up or both layers are down already. -/
def Guarded (c : ApiController τ κ) (e : Event CIn TIn COut TOut) : Prop :=
  ∀ o, e = .stop o → c.isRunning = true ∨ c.Down upT upC

/-- No stop of a component fails in the step, and no run loop. -/
def Faultless : Event CIn TIn COut TOut → Prop
  | .startAsync o => (∀ k e k', I.stop o.rollback k ≠ some (.error e, k')) ∧
      ∀ r ∈ o.early, r = .ok ()
  | .stop o => (∀ t e t', T.stop o.transport t ≠ some (.error e, t')) ∧
      ∀ k e k', I.stop o.core k ≠ some (.error e, k')
  | .runLoopEnds r => r = .ok ()

/-- While the flag is up, the handler is running and the core is up. -/
def Held (c : ApiController τ κ) : Prop :=
  c.isRunning = true → c.requestHandler.isRunning = true ∧ upC c.requestHandler.core

end Conditions

variable {T : ITransport TIn TOut τ} {I : ICore CIn COut κ} {upT : τ → Prop} {upC : κ → Prop}

/-- The flag is up only over a running handler. The core's refusal carries this: a
second start cannot reach the rollback, which would stop the handler. -/
theorem held_step (lawC : I.Lawful upC) {c₀ c after : ApiController τ κ}
    {e : Event CIn TIn COut TOut} (held : c.Held upC)
    (ran : (machine T I c₀).step e c = some after) : after.Held upC := by
  cases e with
  | startAsync o =>
      obtain ⟨⟨r, c'⟩, hstart, rfl⟩ := Option.map_eq_some_iff.mp ran
      have idle : ∀ handler, c.requestHandler.start I o.core = some (.ok (), handler) →
          c.isRunning = false := by
        intro handler started
        apply Bool.eq_false_iff.mpr
        intro running
        obtain ⟨e, refused⟩ := lawC.refuses (held running).2 (RequestHandler.start_cases started).1
        cases refused
      rcases startAsync_cases hstart with ⟨e, handler, failed, -, rfl⟩ | ⟨handler, started, tail⟩
      · intro running
        obtain ⟨core, ⟨done, -⟩ | ⟨-, flag⟩⟩ := RequestHandler.start_cases failed
        · cases done
        · obtain ⟨handlerRuns, up⟩ := held running
          exact ⟨flag.trans handlerRuns, (lawC.start_error core).mpr up⟩
      · rcases tail with ⟨_, _, _, _, -, -, -, rfl⟩ | ⟨transport, -, -, rfl⟩
        · intro running
          rw [idle handler started] at running
          cases running
        · intro _
          rw [(early_frame o.early _).1]
          obtain ⟨core, ⟨-, flag⟩ | ⟨⟨_, failed⟩, -⟩⟩ := RequestHandler.start_cases started
          · exact ⟨flag, lawC.start_ok core⟩
          · cases failed
  | stop o =>
      obtain ⟨⟨r, c'⟩, hstop, rfl⟩ := Option.map_eq_some_iff.mp ran
      intro running
      rcases stop_cases hstop with ⟨-, -, rfl⟩ | ⟨-, lowered, -⟩
      · exact held running
      · rw [lowered] at running
        cases running
  | runLoopEnds r =>
      cases ran
      intro running
      rw [runLoopEnds_requestHandler]
      exact held (runLoopEnds_isRunning running)

/-- In a state where the flag keeps its promise, a stop is honest exactly when it
is guarded. -/
theorem honest_iff_guarded (lawT : ∀ a, Lawful (T.start a) T.stop upT) (lawC : I.Lawful upC)
    {c : ApiController τ κ} {e : Event CIn TIn COut TOut} (held : c.Held upC) :
    Honest T I upT upC c e ↔ Guarded upT upC c e := by
  constructor
  · intro honest o same
    cases running : c.isRunning with
    | true => exact .inl rfl
    | false => exact .inr (honest o c same (by simp [stop, running]))
  · intro guarded o after same ran
    rcases stop_cases ran with ⟨idle, -, rfl⟩ | ⟨running, -, stops⟩
    · rcases guarded o same with running | down
      · rw [idle] at running
        cases running
      · exact down
    · rcases stops with ⟨_, -, -, failed⟩ | ⟨closed, ⟨_, -, failed⟩ | ⟨stopped, -⟩⟩
      · cases failed
      · cases failed
      · refine ⟨(lawT c.serverAddress).stop_ok closed, ?_⟩
        rcases RequestHandler.stop_cases stopped with ⟨idle, -⟩ | ⟨-, -, ⟨-, core⟩ | ⟨_, failed, -⟩⟩
        · rw [(held running).1] at idle
          cases idle
        · exact lawC.stop_ok core
        · cases failed

/-- Without faults the flag is up or everything is down. -/
theorem faultless_step (lawT : ∀ a, Lawful (T.start a) T.stop upT) (lawC : I.Lawful upC)
    {c₀ c after : ApiController τ κ} {e : Event CIn TIn COut TOut}
    (inv : c.Held upC ∧ (c.isRunning = true ∨ c.Down upT upC)) (fine : Faultless T I e)
    (ran : (machine T I c₀).step e c = some after) :
    after.Held upC ∧ (after.isRunning = true ∨ after.Down upT upC) := by
  obtain ⟨held, guarded⟩ := inv
  refine ⟨held_step lawC held ran, ?_⟩
  cases e with
  | startAsync o =>
      obtain ⟨⟨r, c'⟩, hstart, rfl⟩ := Option.map_eq_some_iff.mp ran
      rcases startAsync_cases hstart with ⟨e, handler, failed, -, rfl⟩ | ⟨handler, started, tail⟩
      · have core := (RequestHandler.start_cases failed).1
        exact guarded.imp id fun down =>
          ⟨down.1, fun up => down.2 ((lawC.start_error core).mp up)⟩
      · obtain ⟨core, ⟨-, flag⟩ | ⟨⟨_, failed⟩, -⟩⟩ := RequestHandler.start_cases started
        · rcases tail with ⟨e, transport, r', handler', failed, rolledBack, -, rfl⟩ |
            ⟨transport, -, -, rfl⟩
          · have down : c.Down upT upC := by
              rcases guarded with running | down
              · obtain ⟨e', refused⟩ := lawC.refuses (held running).2 core
                cases refused
              · exact down
            refine .inr ⟨fun up => down.1 ((lawT _).start_error failed |>.mp up), ?_⟩
            rcases RequestHandler.stop_cases rolledBack with ⟨idle, -⟩ |
              ⟨-, -, ⟨-, stopped⟩ | ⟨e', -, stopFailed⟩⟩
            · rw [flag] at idle
              cases idle
            · exact lawC.stop_ok stopped
            · exact absurd stopFailed (fine.1 _ _ _)
          · rw [early_ok fine.2]
            exact .inl rfl
        · cases failed
  | stop o =>
      obtain ⟨⟨r, c'⟩, hstop, rfl⟩ := Option.map_eq_some_iff.mp ran
      rcases stop_cases hstop with ⟨-, -, rfl⟩ | ⟨running, -, stops⟩
      · exact guarded
      · rcases stops with ⟨e, failed, -⟩ | ⟨-, ⟨e, failed, -⟩ | ⟨-, rfl⟩⟩
        · exact absurd failed (fine.1 _ _ _)
        · rcases RequestHandler.stop_cases failed with ⟨-, done, -⟩ |
            ⟨-, -, ⟨done, -⟩ | ⟨e', -, stopFailed⟩⟩
          · cases done
          · cases done
          · exact absurd stopFailed (fine.2 _ _ _)
        · exact .inr ((honest_iff_guarded lawT lawC held).mpr (fun _ _ => .inl running)
            o c' rfl hstop)
  | runLoopEnds r =>
      obtain rfl : r = .ok () := fine
      cases ran
      exact guarded

/-- A run is honest exactly when each of its stops is made with the flag up or with
both layers down; a run without faults is. -/
theorem stops_honest_iff (lawT : ∀ a, Lawful (T.start a) T.stop upT) (lawC : I.Lawful upC)
    {c : ApiController τ κ} (fresh : c.Fresh upT upC) (run : List (Event CIn TIn COut TOut)) :
    ((machine T I c).Along (Honest T I upT upC) run c ↔
        (machine T I c).Along (Guarded upT upC) run c) ∧
      ((∀ e ∈ run, Faultless T I e) → (machine T I c).Along (Guarded upT upC) run c) := by
  have held : c.Held upC := fun running => by simp [fresh.isRunning] at running
  refine ⟨Machine.along_congr (fun _ _ _ held ran => held_step lawC held ran)
    (fun _ _ held => honest_iff_guarded lawT lawC held) held, ?_⟩
  intro fine
  exact Machine.along_of_invariant (fun _ _ _ inv fine ran => faultless_step lawT lawC inv fine ran)
    (fun _ _ inv _ _ _ => inv.2) ⟨held, .inr fresh.down⟩ fine

/-! ### Components that are a switch -/

/-- A transport that is up or down and whose calls work as the outcome says. -/
def switchTransport : ITransport Bool Bool Bool where
  start _ works up := some (if works then (.ok (), true) else (.error "start failed", up))
  stop works up := some (if works then (.ok (), false) else (.error "stop failed", up))

/-- A core of the same kind. It refuses to start when it is up. -/
def switchCore : ICore Bool Bool Bool where
  start works up := some (if works && !up then (.ok (), true) else (.error "start failed", up))
  stop works up := some (if works then (.ok (), false) else (.error "stop failed", up))

theorem switchTransport_lawful (address : String) :
    Lawful (switchTransport.start address) switchTransport.stop (· = true) := by
  constructor <;> intro works <;> cases works <;> simp [switchTransport]

theorem switchCore_lawful : switchCore.Lawful (· = true) := by
  constructor
  · constructor <;> intro works up <;> cases works <;> cases up <;> simp [switchCore]
  · intro works up up' r running ran
    simp only [switchCore, running, Bool.not_true, Bool.and_false, Bool.false_eq_true, if_false,
      Option.some.injEq, Prod.mk.injEq] at ran
    exact ⟨_, ran.1.symm⟩

/-- A controller over two switches that are off. -/
def switchedOff : ApiController Bool Bool :=
  ⟨⟨false, false⟩, false, "0.0.0.0:50051", false⟩

theorem switchedOff_fresh : switchedOff.Fresh (· = true) (· = true) :=
  ⟨rfl, rfl, Bool.false_ne_true, Bool.false_ne_true⟩

/-- A start and a stop without faults. -/
def cleanCycle : List (Event Bool Bool Bool Bool) :=
  [.startAsync ⟨true, true, true, []⟩, .runLoopEnds (.ok ()), .stop ⟨true, true⟩]

theorem cleanCycle_faultless : ∀ e ∈ cleanCycle, Faultless switchTransport switchCore e := by
  intro e mem
  simp only [cleanCycle, List.mem_cons, List.not_mem_nil, or_false] at mem
  rcases mem with rfl | rfl | rfl
  · simp [Faultless, switchCore]
  · rfl
  · simp [Faultless, switchTransport, switchCore]

theorem cleanCycle_honest : (machine switchTransport switchCore switchedOff).Along
    (Honest switchTransport switchCore (· = true) (· = true)) cleanCycle switchedOff := by
  have both := stops_honest_iff switchTransport_lawful switchCore_lawful switchedOff_fresh cleanCycle
  exact both.1.mpr (both.2 cleanCycle_faultless)

/-- A stop whose transport fails, and another stop. -/
def retriedStop : List (Event Bool Bool Bool Bool) :=
  [.startAsync ⟨true, true, true, []⟩, .stop ⟨false, true⟩, .stop ⟨true, true⟩]

/-- The second stop succeeds with transport and core up. -/
theorem retriedStop_not_honest :
    ¬ ∀ (T : ITransport Bool Bool Bool) (I : ICore Bool Bool Bool) (upT upC : Bool → Prop),
      (∀ address, Lawful (T.start address) T.stop upT) → I.Lawful upC →
      ∀ c : ApiController Bool Bool, c.Fresh upT upC → ∀ run,
        (machine T I c).Along (Honest T I upT upC) run c := by
  intro honest
  have along := honest switchTransport switchCore _ _ switchTransport_lawful switchCore_lawful
    switchedOff switchedOff_fresh retriedStop
  have afterStart := (along.2 _ rfl).2 _ rfl
  have down := afterStart.1 ⟨true, true⟩ _ rfl rfl
  exact down.1 rfl

end ApiController

end SensorCore.Api
