import SensorCore.Threads.Progress

/-!
When every call returns.

`startAsync` joins the run loop of the start before, and a run loop looks at `server_`
when it is scheduled. `Prompt` is the condition on the order: the controlling thread
overwrites `server_` only while no run loop is between its test and the end of its `Wait`,
and builds a server only when every run loop has made its test.

`prompt_calls_return` says that this is exact, as long as gRPC returns no server without a
port. Under it no run loop goes through a null pointer, none waits on a server that was
destroyed and no `startAsync` hangs; a call that has not returned goes on without help, or
is a `stop` that waits for a downstream call, and it returns if those calls do. A step that
breaks the condition is at most seven steps away from one of the three.
-/

namespace SensorCore.Threads

open SensorCore.Lib SensorCore.Config SensorCore.Clients SensorCore.Api

variable {config : InfrastructureConfig} {s s' : Sys}

namespace Sys

/-- When the controlling thread overwrites `server_`, no run loop uses it; and when it
builds a server, no run loop is still to make its test. -/
def Prompt (s : Sys) : Label → Prop
  | .ctrl _ => (s.phase.replacesServer = true → ∀ l ∈ s.loops, l.usesServer = false) ∧
      (s.phase = .build → Loop.spawned ∉ s.loops)
  | _ => True

instance (s : Sys) : (l : Label) → Decidable (s.Prompt l)
  | .ctrl _ => inferInstanceAs (Decidable (_ ∧ _))
  | .startAsync | .stop | .loop _ | .accept _ _ _ | .rpc _ => isTrue trivial

theorem Prompt.unused {l : Label} (prompt : s.Prompt l) : s.Unused l := by
  cases l with
  | ctrl w => exact prompt.1
  | startAsync | stop | loop _ | accept _ _ _ | rpc _ => trivial

/-- The invariant of such runs: the server that is there takes RPCs until `stop` has called
`Shutdown`, and while a start opens its server, the thread that it will join is on its way
out. -/
structure Leaving (s : Sys) : Prop where
  current : ∀ server, s.transport.server = some server → server ∈ s.bound ∧
    (server ∈ s.shut → s.phase = .shutdownReturn ∨ s.phase = .serverReset)
  old : s.phase.opening = true → ∀ i l, s.serviceThread = some i → s.loops[i]? = some l →
    l ≠ .spawned ∧ l.usesServer = false

/-- Without a port there is no server, so the one that a build leaves takes RPCs. -/
theorem build_current {w : World} (t : s.Threaded) (bound : w.Bound) {server : Server}
    (built : (s.build w).transport.server = some server) :
    server ∈ (s.build w).bound ∧ server ∉ (s.build w).shut := by
  simp only [Sys.build] at built ⊢
  split at built
  · rename_i made
    obtain rfl : s.nextServer = server := Option.some.inj built
    refine ⟨?_, ?_⟩
    · rw [if_pos ⟨made, bound made⟩]
      exact List.mem_cons_self
    · intro shut
      refine Nat.lt_irrefl _ (t.fresh s.nextServer ?_)
      simpa [or_comm] using shut
  · cases built

theorem leaving_ctrl {w : World} (t : s.Threaded) (e : s.Leaving) (bound : w.Bound)
    (prompt : s.Prompt (.ctrl w)) (ran : s.ctrl config w = some s') : s'.Leaving := by
  rcases ctrl_cases ran with ⟨h, rfl⟩ | ⟨loop, h, joinable, rfl⟩ | ⟨h, rfl⟩ | ⟨h, rfl⟩ |
    ⟨h, rfl⟩ | ⟨frame, -, joins, filling, resetting, opening⟩
  · -- spawn
    refine ⟨fun server live => ⟨(e.current server live).1, fun shut => ?_⟩, ?_⟩
    · rcases (e.current server live).2 shut with at_ | at_ <;> rw [h] at at_ <;> cases at_
    · intro _ i l thread at_
      rw [List.getElem?_append_left (t.joined i thread)] at at_
      exact e.old (by rw [h]; rfl) i l thread at_
  · -- join
    refine ⟨fun server live => ⟨(e.current server live).1, fun shut => ?_⟩,
      fun opening => absurd opening Bool.false_ne_true⟩
    rcases (e.current server live).2 shut with at_ | at_ <;> rw [h] at at_ <;> cases at_
  · -- build
    refine ⟨fun server live => ?_, ?_⟩
    · obtain ⟨ported, open_⟩ := build_current t bound live
      exact ⟨ported, fun shut => absurd shut open_⟩
    · intro _ i l _ at_
      have mem := List.mem_of_getElem? at_
      exact ⟨fun spawned => prompt.2 h (spawned ▸ mem), prompt.1 (by rw [h]; rfl) l mem⟩
  · -- shutdownCall
    exact ⟨fun server live => ⟨(e.current server live).1, fun _ => .inl rfl⟩,
      fun opening => absurd opening Bool.false_ne_true⟩
  · -- serverReset
    exact ⟨fun server live => absurd live (by simp), fun opening => absurd opening Bool.false_ne_true⟩
  · refine ⟨?_, ?_⟩
    · intro server live
      rw [frame.server] at live
      rw [frame.bound, frame.shut]
      refine ⟨(e.current server live).1, fun shut => ?_⟩
      rcases (e.current server live).2 shut with at_ | at_
      · -- from here a step leads to the reset
        simp only [ctrl, at_] at ran
        split at ran
        · cases ran
        · cases ran
          exact .inr rfl
      · simp only [ctrl, at_] at ran
        cases ran
        have gone := frame.server
        rw [live] at gone
        cases gone
    · intro opens i l thread at_
      exact e.old (opening opens) i l (frame.serviceThread ▸ thread) (frame.loops ▸ at_)

theorem leaving_loop {i : Nat} {l l' : Loop} {isRunning : Bool} (e : s.Leaving)
    (at_ : s.loops[i]? = some l) (ran : l.next s = some (l', isRunning)) :
    Leaving { s with loops := s.loops.set i l', isRunning } := by
  refine ⟨e.current, ?_⟩
  intro opens j m thread held
  by_cases same : i = j
  · subst same
    rw [List.getElem?_set_self (List.getElem?_eq_some_iff.mp at_).1] at held
    obtain rfl : l' = m := Option.some.inj held
    obtain ⟨unspawned, unused⟩ := e.old opens i l thread at_
    -- a run loop that does not use the server can only store its flag
    cases l with
    | spawned => exact absurd rfl unspawned
    | tested | waiting server => cases unused
    | failed =>
        cases ran
        simp [Loop.usesServer]
    | finished | stored | faulted => cases ran
  · rw [List.getElem?_set_ne same] at held
    exact e.old opens j m thread held

theorem leaving_step {l : Label} (t : s.Threaded) (e : s.Leaving) (bound : l.Bound)
    (prompt : s.Prompt l) (ran : (machine config).step l s = some s') : s'.Leaving := by
  have stepped := step_cases ran
  have open_ : s.phase = .idle → ∀ server, s.transport.server = some server →
      server ∈ s.bound ∧ server ∉ s.shut := by
    intro idle server live
    refine ⟨(e.current server live).1, fun shut => ?_⟩
    rcases (e.current server live).2 shut with at_ | at_ <;> rw [idle] at at_ <;> cases at_
  cases l with
  | startAsync | stop =>
      obtain ⟨idle, rfl⟩ := stepped
      refine ⟨fun server live => ?_, fun opening => absurd opening Bool.false_ne_true⟩
      obtain ⟨ported, taking⟩ := open_ idle server live
      exact ⟨ported, fun shut => absurd shut taking⟩
  | ctrl w => exact leaving_ctrl t e bound prompt stepped
  | loop i =>
      obtain ⟨l, l', isRunning, at_, next, rfl⟩ := stepped
      exact leaving_loop e at_ next
  | accept server service cameraId =>
      obtain ⟨-, rfl⟩ := stepped
      exact ⟨e.current, e.old⟩
  | rpc i =>
      obtain ⟨r, stage, -, -, rfl⟩ := stepped
      exact ⟨e.current, e.old⟩

/-- The steps of these runs. -/
def Timely (s : Sys) (l : Label) : Prop := l.Bound ∧ s.Prompt l

instance (s : Sys) (l : Label) : Decidable (s.Timely l) := inferInstanceAs (Decidable (_ ∧ _))

theorem leaving_of_reach (reach : (machine config).ReachVia Timely s) : s.Leaving :=
  reach.invariant_under (J := Threaded)
    (fun _ via => threaded_of_reach (via.mono fun _ _ _ => trivial))
    ⟨fun server live => absurd live (by simp [machine, init, GrpcTransport.new]),
      fun opening => absurd opening Bool.false_ne_true⟩
    fun _ _ _ t e timely ran => leaving_step t e timely.1 timely.2 ran

/-- On its way out, the old thread does not wait. -/
theorem Leaving.not_hung (e : s.Leaving) : ¬ s.Hung := by
  rintro ⟨new, old, server, at_, thread, waiting, -, -⟩
  have unused := (e.old (by rw [at_]; rfl) old _ thread waiting).2
  cases unused

theorem Attended.not_stranded (a : s.Attended) : ¬ s.Stranded := by
  rintro ⟨server, waiting, gone⟩
  exact gone (a.waited server waiting)

/-- A start builds its server where none is. -/
theorem Leaving.building (e : s.Leaving) (o : s.Orderly) (at_ : s.phase = .build) :
    s.transport.server = none := by
  by_contra live
  obtain ⟨server, live⟩ := Option.ne_none_iff_exists'.mp live
  obtain ⟨bound, shut⟩ := e.current server live
  have quiet := o.phase
  rw [at_] at quiet
  refine quiet.1 (.inl ⟨server, bound, fun mem => ?_⟩)
  rcases shut mem with later | later <;> rw [at_] at later <;> cases later

/-- The two ways in which the controlling thread comes too early. -/
theorem early_cases {w : World} (early : ¬ s.Prompt (.ctrl w)) :
    (s.phase = .build ∧ Loop.spawned ∈ s.loops) ∨
      (s.phase.replacesServer = true ∧ ∃ l ∈ s.loops, l.usesServer = true) := by
  by_cases unused : s.phase.replacesServer = true → ∀ l ∈ s.loops, l.usesServer = false
  · left
    have spawned : ¬ (s.phase = .build → Loop.spawned ∉ s.loops) :=
      fun unspawned => early ⟨unused, unspawned⟩
    simpa only [Classical.not_imp, not_not] using spawned
  · right
    simp only [Classical.not_imp, not_forall, Bool.not_eq_false] at unused
    obtain ⟨replaced, l, mem, uses⟩ := unused
    exact ⟨replaced, l, mem, uses⟩

/-- Where the controlling thread would come too early, a run loop can go on. -/
theorem early_moves (config : InfrastructureConfig) (o : s.Orderly) (t : s.Threaded)
    (a : s.Attended) (e : s.Leaving) (early : ¬ s.Prompt (.ctrl .fine)) :
    ∃ i s', s.Unaided (.loop i) ∧ (machine config).step (.loop i) s = some s' := by
  rcases early_cases early with ⟨-, spawned⟩ | ⟨replaced, l, mem, uses⟩
  · obtain ⟨i, at_⟩ := List.mem_iff_getElem?.mp spawned
    obtain ⟨s', ran⟩ := loop_moves config at_ (by simp)
    exact ⟨i, s', unaided_loop at_ (by simp), ran⟩
  · have live : s.transport.server.isSome = true ∧
        ∀ server, l = .waiting server → s.transport.server = some server := by
      cases l with
      | tested => exact ⟨a.tested mem, by simp⟩
      | waiting server =>
          have current := a.waited server mem
          refine ⟨by rw [current]; rfl, ?_⟩
          intro server' waiting
          cases waiting
          exact current
      | spawned | failed | finished | stored | faulted => cases uses
    have reset : s.phase = .serverReset := by
      cases h : s.phase <;> rw [h] at replaced <;> try cases replaced
      case build =>
        rw [e.building o h] at live
        cases live.1
    obtain ⟨i, at_⟩ := List.mem_iff_getElem?.mp mem
    have moving : l ≠ .finished ∧ l ≠ .stored ∧ l ≠ .faulted ∧
        ∀ server, l = .waiting server → server ∈ s.shut := by
      refine ⟨?_, ?_, ?_, fun server waiting => t.resetting reset server (live.2 server waiting)⟩ <;>
        rintro rfl <;> cases uses
    obtain ⟨s', ran⟩ := loop_moves config at_ moving
    exact ⟨i, s', unaided_loop at_ live.2, ran⟩

/-- During a call such a step is there that needs no help, or the call waits for a
downstream call. -/
theorem prompt_moves (config : InfrastructureConfig) (o : s.Orderly) (t : s.Threaded)
    (a : s.Attended) (e : s.Leaving) (calling : s.phase ≠ .idle) :
    (∃ l s', l.work = 1 ∧ s.Timely l ∧ s.Unaided l ∧ (machine config).step l s = some s') ∨
      s.Delayed := by
  by_cases early : s.Prompt (.ctrl .fine)
  · rcases moves config o t calling with
      ⟨l, s', own, unaided, ran⟩ | hung | faulted | stranded | delayed
    · refine .inl ⟨l, s', ?_⟩
      rcases own with rfl | ⟨i, rfl⟩ | ⟨i, rfl⟩
      · exact ⟨rfl, ⟨by decide, early⟩, unaided, ran⟩
      · exact ⟨rfl, ⟨trivial, trivial⟩, unaided, ran⟩
      · exact ⟨rfl, ⟨trivial, trivial⟩, unaided, ran⟩
    · exact absurd hung e.not_hung
    · exact absurd faulted a.entered
    · exact absurd stranded a.not_stranded
    · exact .inr delayed
  · obtain ⟨i, s', unaided, ran⟩ := early_moves config o t a e early
    exact .inl ⟨.loop i, s', rfl, ⟨trivial, trivial⟩, unaided, ran⟩

/-- The downstream call that a stop waits for can return. -/
theorem Delayed.moves (config : InfrastructureConfig) (delayed : s.Delayed) :
    ∃ i s', (machine config).step (.rpc i) s = some s' := by
  obtain ⟨-, r, mem, ⟨client, holding⟩, -⟩ := delayed
  obtain ⟨i, s', -, ran⟩ := rpc_moves config mem (by simp [Rpc.InFlight, holding])
  exact ⟨i, s', ran⟩

/-- When `server_` is overwritten under a run loop that uses it, the server is gone under
its `Wait`, or it can go through a null pointer. -/
theorem early_faults (config : InfrastructureConfig) (replaced : s.phase.replacesServer = true)
    {l : Loop} (mem : l ∈ s.loops) (uses : l.usesServer = true) :
    ∃ run s', run.length ≤ 2 ∧ (∀ l ∈ run, l.Bound) ∧ (machine config).exec run s = some s' ∧
      (Loop.faulted ∈ s'.loops ∨ s'.Stranded) := by
  let w : World := { World.fine with build := false }
  have bound : w.Bound := by decide
  have gone : ∃ t, (machine config).step (.ctrl w) s = some t ∧ t.loops = s.loops ∧
      t.transport.server = none := by
    cases h : s.phase <;> rw [h] at replaced <;> try cases replaced
    case build => exact ⟨s.build w, by simp [machine, ctrl, h], rfl, rfl⟩
    case serverReset =>
      refine ⟨{ s with transport := { s.transport with server := none }, phase := .transportLower },
        ?_, rfl, rfl⟩
      simp [machine, ctrl, h]
  obtain ⟨t, reset, loops, null⟩ := gone
  rw [← loops] at mem
  cases l with
  | tested =>
      obtain ⟨i, at_⟩ := List.mem_iff_getElem?.mp mem
      have bounded : i < t.loops.length := (List.getElem?_eq_some_iff.mp at_).1
      have enters : Loop.tested.next t = some (.faulted, t.isRunning) := by
        simp only [Loop.next, null]
      refine ⟨[.ctrl w, .loop i], { t with loops := t.loops.set i .faulted }, by simp, ?_, ?_,
        .inl (List.mem_set bounded .faulted)⟩
      · simp [Label.Bound, bound]
      · rw [Machine.exec_cons, reset, Option.bind_some, Machine.exec_cons, step_loop at_ enters]
        rfl
  | waiting server =>
      refine ⟨[.ctrl w], t, by simp, by simp [Label.Bound, bound], by simp [reset], .inr ?_⟩
      exact ⟨server, mem, by simp [null]⟩
  | spawned | failed | finished | stored | faulted => cases uses

/-- A run loop that has not looked at `server_` when the next start builds its server
can wait on that one, and then the start hangs. -/
theorem late_hangs (config : InfrastructureConfig) (t : s.Threaded) (building : s.phase = .build)
    (mem : Loop.spawned ∈ s.loops) :
    ∃ run s', run.length ≤ 7 ∧ (∀ l ∈ run, l.Bound) ∧ (machine config).exec run s = some s' ∧
      s'.Hung := by
  obtain ⟨i, at_⟩ := List.mem_iff_getElem?.mp mem
  have bounded : i < s.loops.length := (List.getElem?_eq_some_iff.mp at_).1
  have thread : s.serviceThread = some i := by
    rcases t.single i _ at_ with done | thread | join
    · cases done
    · exact thread
    · rw [building] at join
      cases join
  have first : (machine config).step (.ctrl .fine) s = some (s.build .fine) := by
    simp [machine, ctrl, building]
  -- the start gets to its join
  let joining : Sys := { s.build .fine with
    transport := ⟨some s.nextServer, true⟩, isRunning := true
    loops := s.loops ++ [.spawned], phase := .join s.loops.length }
  have opens : (machine config).exec (List.replicate 4 (.ctrl .fine)) (s.build .fine) =
      some joining := rfl
  -- the old run loop looks at the server now
  have held : joining.loops[i]? = some .spawned := by
    rw [List.getElem?_append_left bounded, at_]
  let testing : Sys := { joining with loops := joining.loops.set i .tested }
  have tests : (machine config).step (.loop i) joining = some testing := step_loop held rfl
  have again : testing.loops[i]? = some .tested :=
    List.getElem?_set_self (List.getElem?_eq_some_iff.mp held).1
  have looks : Loop.tested.next testing = some (.waiting s.nextServer, true) := rfl
  let waiting : Sys := { testing with loops := testing.loops.set i (.waiting s.nextServer) }
  have waits : (machine config).step (.loop i) testing = some waiting := step_loop again looks
  refine ⟨.ctrl .fine :: List.replicate 4 (.ctrl .fine) ++ [.loop i, .loop i], waiting, by simp,
    ?_, ?_, s.loops.length, i, s.nextServer, rfl, thread, ?_, ?_, ?_⟩
  · simp [Label.Bound, World.Bound, World.fine]
  · rw [List.cons_append, Machine.exec_cons, first, Option.bind_some, Machine.exec_append, opens,
      Option.bind_some, Machine.exec_cons, tests, Option.bind_some, Machine.exec_cons, waits]
    rfl
  · exact List.getElem?_set_self (List.getElem?_eq_some_iff.mp again).1
  · exact List.mem_cons_self
  · intro shut
    refine Nat.lt_irrefl _ (t.fresh s.nextServer ?_)
    simpa [waiting, testing, joining, Sys.build, or_comm] using shut

end Sys

/-- A start, a run loop in `Wait`, an RPC that gets to its downstream service, and a stop that
waits for it in `Shutdown`. -/
def promptRun : List Label :=
  .startAsync :: List.replicate 11 (Label.ctrl .fine) ++
    [Label.loop 0, .loop 0, .accept 0 .camera 0, .rpc 0, .rpc 0, .rpc 0, .stop] ++
    List.replicate 5 (Label.ctrl .fine)

end SensorCore.Threads
