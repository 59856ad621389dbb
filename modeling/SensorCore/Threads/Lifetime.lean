import SensorCore.Threads.Machine

/-!
The server object against the run loops that use it.

`runLoop` tests `server_` and then calls `Wait` through it, and `stop` resets `server_`
once `Shutdown` has returned; nobody waits for the run loop. So a run loop can go on
through a null pointer, and a server can be destroyed while a run loop is in `Wait` on
it: `server_does_not_outlive` and `null_entered`.

`server_outlives` is the condition: the controlling thread overwrites `server_` only
while no run loop is between its test and the end of its `Wait`. The other steps leave
`server_` alone (`ctrl_frame`), and a run loop that has passed its test finds the server
there. A reset that does not meet the condition is at most two steps away from a fault.
-/

namespace SensorCore.Threads

open SensorCore.Lib SensorCore.Config SensorCore.Clients SensorCore.Api

/-- The run loop is past its test and not out of `Wait`. -/
def Loop.usesServer : Loop → Bool
  | .tested | .waiting _ => true
  | .spawned | .failed | .finished | .stored | .faulted => false

/-- The phases whose step overwrites `server_`. -/
def Phase.replacesServer : Phase → Bool
  | .serverReset | .build => true
  | _ => false

namespace Sys

/-- No run loop went on through a null pointer, and the server that one waits on is
still held. -/
structure ServerOutlives (s : Sys) : Prop where
  entered : Loop.faulted ∉ s.loops
  waited : ∀ server, Loop.waiting server ∈ s.loops → s.transport.server = some server

/-- When the controlling thread overwrites `server_`, no run loop uses it. -/
def Unused (s : Sys) : Label → Prop
  | .ctrl _ => s.phase.replacesServer = true → ∀ l ∈ s.loops, l.usesServer = false
  | _ => True

instance (s : Sys) : (l : Label) → Decidable (s.Unused l)
  | .ctrl _ => inferInstanceAs
      (Decidable (s.phase.replacesServer = true → ∀ l ∈ s.loops, l.usesServer = false))
  | .startAsync | .stop | .loop _ | .accept _ _ _ | .rpc _ => isTrue trivial

/-- The invariant: a run loop that has passed its test finds a server. -/
structure Attended (s : Sys) : Prop extends ServerOutlives s where
  tested : Loop.tested ∈ s.loops → s.transport.server.isSome = true

variable {s s' : Sys}

/-- The controlling thread adds at most a new run loop, and overwrites `server_` in two
phases only. -/
theorem ctrl_frame {config : InfrastructureConfig} {w : World} (ran : s.ctrl config w = some s') :
    (s'.loops = s.loops ∨ s'.loops = s.loops ++ [.spawned]) ∧
      (s.phase.replacesServer = false → s'.transport.server = s.transport.server) := by
  cases h : s.phase <;> simp only [ctrl, h] at ran
  case idle => cases ran
  case coreTest | apiTest | handlerTest | coreStopTest | buildTest =>
    split at ran
    · cases ran
      exact ⟨.inl rfl, fun _ => rfl⟩
    · cases ran
      exact ⟨.inl rfl, fun _ => rfl⟩
  case newManager | managerReset | join =>
    split at ran
    · cases ran
      exact ⟨.inl rfl, fun _ => rfl⟩
    · cases ran
  case fillManager =>
    split at ran
    · cases ran
    · split at ran
      · cases ran
        exact ⟨.inl rfl, fun _ => rfl⟩
      · cases ran
        exact ⟨.inl rfl, fun _ => rfl⟩
  case cleanup | coreRaise | handlerRaise | transportRaise | apiRaise | apiLower | transportTest |
      serverTest | shutdownCall | transportLower | handlerLower | coreLower =>
    cases ran
    exact ⟨.inl rfl, fun _ => rfl⟩
  case build | serverReset =>
    cases ran
    refine ⟨.inl rfl, ?_⟩
    intro kept
    cases kept
  case spawn =>
    cases ran
    exact ⟨.inr rfl, fun _ => rfl⟩
  case shutdownReturn =>
    split at ran
    · cases ran
    · cases ran
      exact ⟨.inl rfl, fun _ => rfl⟩
  case clear =>
    split at ran
    · cases ran
      exact ⟨.inl rfl, fun _ => rfl⟩
    · split at ran
      · cases ran
        exact ⟨.inl rfl, fun _ => rfl⟩
      · cases ran
        exact ⟨.inl rfl, fun _ => rfl⟩

/-- The controlling thread keeps the server for its run loops, when it overwrites
`server_` only while none uses it. -/
theorem attended_ctrl {config : InfrastructureConfig} {w : World} (a : s.Attended)
    (unused : s.Unused (.ctrl w)) (ran : s.ctrl config w = some s') : s'.Attended := by
  obtain ⟨loops, kept⟩ := ctrl_frame ran
  have before : ∀ l ∈ s'.loops, l ≠ .spawned → l ∈ s.loops := by
    intro l mem old
    rcases loops with same | more
    · exact same ▸ mem
    · rw [more] at mem
      rcases List.mem_append.mp mem with before | new
      · exact before
      · exact absurd (List.mem_singleton.mp new) old
  have server : ∀ l ∈ s'.loops, l.usesServer = true →
      s'.transport.server = s.transport.server := by
    intro l mem uses
    apply kept
    apply Bool.eq_false_iff.mpr
    intro replaced
    have free := unused replaced l (before l mem (by rintro rfl; cases uses))
    rw [uses] at free
    cases free
  refine ⟨⟨?_, ?_⟩, ?_⟩
  · intro faulted
    exact a.entered (before _ faulted (by simp))
  · intro n waiting
    rw [server _ waiting rfl]
    exact a.waited n (before _ waiting (by simp))
  · intro tested
    rw [server _ tested rfl]
    exact a.tested (before _ tested (by simp))

/-- A step of a run loop. -/
theorem attended_loop {i : Nat} {l l' : Loop} {isRunning : Bool} (a : s.Attended)
    (at_ : s.loops[i]? = some l) (ran : l.next s = some (l', isRunning)) :
    Attended { s with loops := s.loops.set i l', isRunning } := by
  have mem := List.mem_of_getElem? at_
  have others : ∀ m ∈ s.loops.set i l', m = l' ∨ m ∈ s.loops := by
    intro m new
    exact (List.mem_or_eq_of_mem_set new).symm
  suffices l' ≠ .faulted ∧ (∀ n, l' = .waiting n → s.transport.server = some n) ∧
      (l' = .tested → s.transport.server.isSome = true) by
    obtain ⟨fine, waits, finds⟩ := this
    refine ⟨⟨?_, ?_⟩, ?_⟩
    · intro faulted
      rcases others _ faulted with new | old
      · exact fine new.symm
      · exact a.entered old
    · intro n waiting
      rcases others _ waiting with new | old
      · exact waits n new.symm
      · exact a.waited n old
    · intro tested
      rcases others _ tested with new | old
      · exact finds new.symm
      · exact a.tested old
  cases l with
  | spawned =>
      cases live : s.transport.server with
      | none =>
          simp only [Loop.next, live] at ran
          cases ran
          simp
      | some server =>
          simp only [Loop.next, live] at ran
          cases ran
          simp
  | tested =>
      obtain ⟨server, live⟩ := Option.isSome_iff_exists.mp (a.tested mem)
      simp only [Loop.next, live] at ran
      cases ran
      simp [live]
  | waiting server =>
      simp only [Loop.next] at ran
      split at ran
      · cases ran
        simp
      · cases ran
  | failed =>
      cases ran
      simp
  | finished => cases ran
  | stored => cases ran
  | faulted => cases ran

/-- Every step keeps the server for the run loops that use it. -/
theorem attended_step {config : InfrastructureConfig} {l : Label} (a : s.Attended)
    (unused : s.Unused l) (ran : (machine config).step l s = some s') : s'.Attended := by
  have stepped := step_cases ran
  cases l with
  | startAsync =>
      obtain ⟨-, rfl⟩ := stepped
      exact ⟨⟨a.entered, a.waited⟩, a.tested⟩
  | stop =>
      obtain ⟨-, rfl⟩ := stepped
      exact ⟨⟨a.entered, a.waited⟩, a.tested⟩
  | ctrl w => exact attended_ctrl a unused stepped
  | loop i =>
      obtain ⟨l, l', isRunning, at_, next, rfl⟩ := stepped
      exact attended_loop a at_ next
  | accept server service cameraId =>
      obtain ⟨-, rfl⟩ := stepped
      exact ⟨⟨a.entered, a.waited⟩, a.tested⟩
  | rpc i =>
      obtain ⟨r, stage, -, -, rfl⟩ := stepped
      exact ⟨⟨a.entered, a.waited⟩, a.tested⟩

theorem attended_of_reach {config : InfrastructureConfig}
    (reach : (machine config).ReachVia Unused s) : s.Attended :=
  reach.invariant ⟨⟨List.not_mem_nil, fun _ => List.not_mem_nil.elim⟩, List.not_mem_nil.elim⟩
    fun _ _ _ a unused ran => attended_step a unused ran

/-- A reset while a run loop uses the server: the server is gone under a `Wait`, or the
next step of the run loop goes through the null pointer. -/
theorem reset_faults {config : InfrastructureConfig} (phase : s.phase = .serverReset)
    {l : Loop} (mem : l ∈ s.loops) (uses : l.usesServer = true) :
    ∃ run s', run.length ≤ 2 ∧ (machine config).exec run s = some s' ∧ ¬ s'.ServerOutlives := by
  let s₁ : Sys :=
    { s with transport := { s.transport with server := none }, phase := .transportLower }
  have reset : (machine config).step (.ctrl .fine) s = some s₁ := by
    simp [machine, ctrl, phase, s₁]
  cases l with
  | waiting server =>
      refine ⟨[.ctrl .fine], s₁, by simp, by simp [reset], ?_⟩
      intro outlives
      cases outlives.waited server mem
  | tested =>
      obtain ⟨i, at_⟩ := List.mem_iff_getElem?.mp mem
      have bounded : i < s.loops.length := (List.getElem?_eq_some_iff.mp at_).1
      let s₂ : Sys := { s₁ with loops := s₁.loops.set i .faulted }
      have entered : (machine config).step (.loop i) s₁ = some s₂ := by
        simp [machine, s₁, s₂, at_, Loop.next]
      refine ⟨[.ctrl .fine, .loop i], s₂, by simp, by simp [reset, entered], ?_⟩
      intro outlives
      exact outlives.entered (List.mem_set bounded .faulted)
  | spawned | failed | finished | stored | faulted => cases uses

end Sys

/-- In a run in which `server_` is overwritten only while no run loop uses it, no run
loop goes through a null pointer, and none waits on a server that was destroyed. A reset
after such a run that does not meet this is at most two steps away from a fault. -/
theorem server_outlives {config : InfrastructureConfig} {s : Sys}
    (reach : (machine config).ReachVia Sys.Unused s) :
    s.ServerOutlives ∧
      (s.phase = .serverReset → ∀ l ∈ s.loops, l.usesServer = true →
        ∃ run s', run.length ≤ 2 ∧ (machine config).exec run s = some s' ∧ ¬ s'.ServerOutlives) :=
  ⟨(Sys.attended_of_reach reach).toServerOutlives,
    fun phase _ mem uses => Sys.reset_faults phase mem uses⟩

/-- A start, a run loop in `Wait`, and a stop that is not past `Shutdown` before the run
loop has left. -/
def patientRun : List Label :=
  .startAsync :: List.replicate 11 (Label.ctrl .fine) ++ [Label.loop 0, .loop 0, .stop] ++
    List.replicate 5 (Label.ctrl .fine) ++ [Label.loop 0] ++ List.replicate 9 (Label.ctrl .fine)

theorem server_outlives_patientRun :
    ∃ s, ((machine ⟨∅⟩).restrict Sys.Unused).exec patientRun .init = some s ∧
      (s.phase, s.loops, s.transport) = (.idle, [.finished], .new) ∧ s.ServerOutlives := by
  have ends : (((machine ⟨∅⟩).restrict Sys.Unused).exec patientRun .init).map
      (fun s => (s.phase, s.loops, s.transport)) = some (.idle, [.finished], .new) := rfl
  obtain ⟨s, ran, seen⟩ := Option.map_eq_some_iff.mp ends
  exact ⟨s, ran, seen,
    (server_outlives (.of_restrict (.of_exec .init (fun _ _ => trivial) ran))).1⟩

/-- The same start and stop, but the run loop is still in `Wait` at the reset. -/
def hastyRun : List Label :=
  .startAsync :: List.replicate 11 (Label.ctrl .fine) ++ [Label.loop 0, .loop 0, .stop] ++
    List.replicate 7 (Label.ctrl .fine)

theorem server_does_not_outlive :
    ¬ ∀ (config : InfrastructureConfig) (s : Sys), (machine config).Reach s → s.ServerOutlives := by
  intro outlives
  have ends : ((machine ⟨∅⟩).exec hastyRun .init).map (fun s => (s.loops, s.transport.server)) =
      some ([.waiting 0], none) := rfl
  obtain ⟨s, ran, seen⟩ := Option.map_eq_some_iff.mp ends
  obtain ⟨loops, server⟩ := Prod.mk.inj seen
  have held := (outlives ⟨∅⟩ s (.of_exec .init (fun _ _ => trivial) ran)).waited 0 (by simp [loops])
  rw [server] at held
  cases held

/-- The run loop tests the server before the stop and goes on after the reset. -/
def nullRun : List Label :=
  .startAsync :: List.replicate 11 (Label.ctrl .fine) ++ [Label.loop 0, .stop] ++
    List.replicate 7 (Label.ctrl .fine) ++ [Label.loop 0]

theorem null_entered :
    ∃ s, (machine ⟨∅⟩).Reach s ∧ Loop.faulted ∈ s.loops := by
  have ends : ((machine ⟨∅⟩).exec nullRun .init).map (fun s => s.loops) = some [.faulted] := rfl
  obtain ⟨s, ran, loops⟩ := Option.map_eq_some_iff.mp ends
  exact ⟨s, .of_exec .init (fun _ _ => trivial) ran, by simp [loops]⟩

end SensorCore.Threads
