import SensorCore.Api.Controller

/-!
`GrpcTransport`: the server object and the flag beside it.

`start` stores what `BuildAndStart` returns before it looks at it, so the server
that was there is gone in any case; the flag rises only when the build gave a
server with a port. `stop` looks at the flag alone.

On its own the transport does not refuse a second start. One that builds no server
takes the first server down and leaves the flag up; `calls_intact_iff` says that
nothing else sets flag and server apart.
-/

namespace SensorCore.Api

open SensorCore.Lib

/-- A gRPC server object. -/
abbrev Server := Nat

/-- What `BuildAndStart` returns, and the port it selected; 0 when none was bound. -/
structure Build where
  server : Option Server
  selectedPort : Nat
  deriving DecidableEq, Repr

/-- gRPC never returns a server without a bound port. -/
def Build.Bound (b : Build) : Prop := b.server.isSome = true → b.selectedPort ≠ 0

instance (b : Build) : Decidable b.Bound :=
  inferInstanceAs (Decidable (b.server.isSome = true → b.selectedPort ≠ 0))

/-- The port is taken, or the address does not parse: no server. -/
def Build.noServer : Build := ⟨none, 0⟩

structure GrpcTransport where
  server : Option Server
  isRunning : Bool
  deriving DecidableEq, Repr

namespace GrpcTransport

def new : GrpcTransport := ⟨none, false⟩

def start (address : String) (b : Build) (t : GrpcTransport) : Result Unit × GrpcTransport :=
  let t := { t with server := b.server }
  if t.server.isNone ∨ b.selectedPort = 0 then
    (.error ("Failed to open server on: " ++ address), t)
  else (.ok (), { t with isRunning := true })

/-- `Shutdown` and `reset` on the server, when there is one. -/
def stop (t : GrpcTransport) : Result Unit × GrpcTransport :=
  if t.isRunning then (.ok (), { server := none, isRunning := false })
  else (.ok (), t)

/-- The result of the run loop: an error without a server, and success once `Wait`
on the server returns. -/
def runLoop (t : GrpcTransport) : Result Unit :=
  if t.server.isNone then .error "Server isn't initialized" else .ok ()

/-- The lifecycle interface of the transport. -/
def lifecycle : ITransport Build Unit GrpcTransport where
  start address b t := some (start address b t)
  stop _ t := some (stop t)

theorem start_ok {address : String} {b : Build} {t after : GrpcTransport}
    (ran : start address b t = (.ok (), after)) :
    after.isRunning = true ∧ after.server = b.server ∧ after.server.isSome = true := by
  unfold start at ran
  dsimp only at ran
  split at ran
  · cases ran
  · rename_i opened
    rw [not_or] at opened
    cases ran
    refine ⟨rfl, rfl, ?_⟩
    simpa [Option.isSome_iff_ne_none] using opened.1

/-- A start that fails has no server, unless gRPC returned one without a port. The
flag is not touched. -/
theorem start_error {address e : String} {b : Build} {t after : GrpcTransport} (bound : b.Bound)
    (ran : start address b t = (.error e, after)) :
    after.server = none ∧ after.isRunning = t.isRunning := by
  unfold start at ran
  dsimp only at ran
  split at ran
  · rename_i failed
    cases ran
    refine ⟨?_, rfl⟩
    rcases failed with missing | unbound
    · exact Option.isNone_iff_eq_none.mp missing
    · cases server : b.server with
      | none => rfl
      | some _ => exact absurd unbound (bound (by rw [server]; rfl))
  · cases ran

theorem stop_running {t : GrpcTransport} (running : t.isRunning = true) :
    stop t = (.ok (), new) := by
  rw [stop, if_pos running]
  rfl

theorem stop_stopped {t : GrpcTransport} (stopped : t.isRunning = false) :
    stop t = (.ok (), t) := by
  rw [stop, if_neg (Bool.eq_false_iff.mp stopped)]

/-! ### The transport on its own -/

/-- A call, with what `BuildAndStart` returns in it: no server, or one with a port. -/
inductive Call where
  | start (address : String) (b : { b : Build // b.Bound })
  | stop

def call : Call → GrpcTransport → Result Unit × GrpcTransport
  | .start address b => start address b.val
  | .stop => stop

/-- A transport under any sequence of calls. -/
def machine : Machine GrpcTransport Call where
  init := new
  step c t := some (call c t).2

/-- The flag is up exactly when there is a server. -/
def Consistent (t : GrpcTransport) : Prop := t.isRunning = true ↔ t.server.isSome = true

/-- After the call flag and server agree, and if the call failed they are as before. -/
structure Intact (t : GrpcTransport) (c : Call) : Prop where
  consistent : (call c t).2.Consistent
  unchanged : ∀ e, (call c t).1 = .error e → (call c t).2 = t

/-- Not a start on a running transport that builds no server. -/
def Replaceable (t : GrpcTransport) : Call → Prop
  | .start _ b => t.isRunning = true → b.val.server.isSome = true
  | .stop => True

theorem new_consistent : new.Consistent := by
  constructor
  · intro up
    cases up
  · intro live
    cases live

/-- A start that builds a server leaves flag and server up. -/
theorem start_intact {t : GrpcTransport} (address : String) {b : { b : Build // b.Bound }}
    (built : b.val.server.isSome = true) : t.Intact (.start address b) := by
  have ported := b.property built
  have opened : ¬ (b.val.server.isNone = true ∨ b.val.selectedPort = 0) := by
    rw [not_or, Option.isNone_iff_eq_none, ← ne_eq, ← Option.isSome_iff_ne_none]
    exact ⟨built, ported⟩
  have started : call (.start address b) t =
      (.ok (), { server := b.val.server, isRunning := true }) := by
    simp only [call, start, if_neg opened]
  refine ⟨?_, ?_⟩
  · rw [started]
    exact ⟨fun _ => built, fun _ => rfl⟩
  · intro e failed
    rw [started] at failed
    cases failed

/-- A start that builds no server drops the one that is there. -/
theorem start_noServer {t : GrpcTransport} (address : String) {b : Build}
    (none_built : b.server = none) :
    start address b t =
      (.error ("Failed to open server on: " ++ address), { t with server := none }) := by
  simp [start, none_built]

/-- Where flag and server agree, only a start on a running transport that builds no
server is not intact. -/
theorem intact_iff {t : GrpcTransport} {c : Call} (consistent : t.Consistent) :
    t.Intact c ↔ t.Replaceable c := by
  cases c with
  | start address b =>
      cases built : b.val.server with
      | some server =>
          have live : b.val.server.isSome = true := by rw [built]; rfl
          exact ⟨fun _ _ => live, fun _ => start_intact address live⟩
      | none =>
          have failed : call (.start address b) t = _ := start_noServer address built
          constructor
          · intro intact running
            have gone := intact.consistent
            rw [failed] at gone
            cases gone.mp running
          · intro replaceable
            have down : t.isRunning = false := by
              apply Bool.eq_false_iff.mpr
              intro running
              have live := replaceable running
              rw [built] at live
              cases live
            have empty : t.server = none := by
              apply Option.not_isSome_iff_eq_none.mp
              intro live
              rw [consistent.mpr live] at down
              cases down
            have same : { t with server := none } = t := by rw [← empty]
            rw [same] at failed
            refine ⟨?_, ?_⟩
            · rw [failed]
              exact consistent
            · intro _ _
              rw [failed]
  | stop =>
      refine ⟨fun _ => trivial, fun _ => ?_⟩
      cases running : t.isRunning with
      | true =>
          have stopped : call .stop t = (.ok (), new) := stop_running running
          refine ⟨?_, ?_⟩
          · rw [stopped]
            exact new_consistent
          · intro e failed
            rw [stopped] at failed
            cases failed
      | false =>
          have stopped : call .stop t = (.ok (), t) := stop_stopped running
          refine ⟨?_, ?_⟩
          · rw [stopped]
            exact consistent
          · intro _ _
            rw [stopped]

/-- All calls of a run are intact exactly when no start of the run that builds no
server is made on a running transport. -/
theorem calls_intact_iff (run : List Call) :
    machine.Along Intact run new ↔ machine.Along Replaceable run new := by
  refine Machine.along_congr_of_kept (I := Consistent) ?_ ?_ ?_
  · intro t after c _ intact stepped
    cases stepped
    exact intact.consistent
  · intro t c consistent
    exact intact_iff consistent
  · exact new_consistent

/-- The port is taken by the first start when the second one comes. -/
def restarted : List Call :=
  [.start "0.0.0.0:50051" ⟨⟨some 0, 50051⟩, by decide⟩,
    .start "0.0.0.0:50051" ⟨.noServer, by decide⟩]

/-- After the second start the flag is up and the server gone. -/
theorem restarted_not_intact : ¬ ∀ run : List Call, machine.Along Intact run new := by
  intro intact
  have second := ((intact restarted).2 _ rfl).1
  have live := second.consistent.mp rfl
  cases live

end GrpcTransport

end SensorCore.Api
