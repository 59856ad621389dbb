import SensorCore.Api.Devices
import SensorCore.Threads.Delivery

/-!
RPCs that overlap.

`traffic` puts the requests of the RPCs, the instances and the replies to the machine of
threads: an RPC that holds its client calls it, the instance handles the call at some
moment after that (`Event.handle`), and only then the RPC goes on. Starts, stops and their
failures go on as before.

`linearizable` says that nothing of this can be seen in the replies. Whatever overlaps,
they are those of `Api.Cameras` asked one request after the other, in an order in which an
RPC that ended before another one was accepted comes before it. The order is the one in
which calls are handled and requests without a client are refused (`Traffic.order`); the
devices survive the restarts of the server in between.
-/

namespace SensorCore.Threads

open SensorCore.Lib SensorCore.Config SensorCore.Clients SensorCore.Api

/-! ### Replies -/

/-- What the reactor of an RPC that ends without a call is finished with; a process that
crashes does not get there. -/
def Outcome.refusal {R : Type} (r : Relay R) : Outcome → Option String
  | .notRunning => some r.refusal
  | .notInitialized => some "Core is not initialized"
  | .notConfigured => some (r.operation ++ " failed: " ++ (r.service.name ++ " not configured"))
  | .unavailable =>
      some (r.service.name ++ " client for instance " ++ toString r.cameraId ++
        " is not available")
  | .crashed | .called => none

/-- A reply with its request. -/
abbrev Answer := Σ rpc : CoreService, Reply rpc.Response

/-- The threads with the requests of their RPCs, the calls that were handled, and the
replies, each with the number of its RPC, in the order in which they were settled. -/
structure Traffic where
  sys : Sys
  requests : List CoreService
  sent : List Sent
  answers : List (Nat × Answer)

namespace Traffic

def init : Traffic := ⟨.init, [], [], []⟩

/-- The RPCs whose reply is settled. -/
def order (t : Traffic) : List Nat := t.answers.map Prod.fst

/-- The requests in this order. -/
def served (t : Traffic) : List CoreService := t.answers.map fun p => p.2.1

/-- The instance handles the call of an RPC. -/
def handle (world : Downstream) (i : Nat) (request : CoreService) (client : Channel)
    (t : Traffic) : Traffic :=
  { t with
    sent := ((relay request).serve world t.sent (.ok client)).2
    answers := t.answers ++ [(i, ⟨request, ((relay request).serve world t.sent (.ok client)).1⟩)] }

/-- An RPC ends without a call. -/
def refuse (i : Nat) (request : CoreService) (outcome : Outcome) (t : Traffic) : Traffic :=
  match outcome.refusal (relay request) with
  | none => t
  | some text => { t with answers := t.answers ++ [(i, ⟨request, (relay request).refuse text⟩)] }

end Traffic

inductive Event where
  | startAsync
  | stop
  | ctrl (w : World)
  | loop (i : Nat)
  | accept (server : Server) (request : CoreService)
  | rpc (i : Nat)
  | handle (i : Nat)

def traffic (config : InfrastructureConfig) (world : Downstream) : Machine Traffic Event where
  init := .init
  step
    | .startAsync, t => ((machine config).step .startAsync t.sys).map ({ t with sys := · })
    | .stop, t => ((machine config).step .stop t.sys).map ({ t with sys := · })
    | .ctrl w, t => ((machine config).step (.ctrl w) t.sys).map ({ t with sys := · })
    | .loop i, t => ((machine config).step (.loop i) t.sys).map ({ t with sys := · })
    | .accept server request, t =>
        ((machine config).step
          (.accept server (relay request).service (relay request).cameraId) t.sys).map fun sys =>
            { t with sys, requests := t.requests ++ [request] }
    | .rpc i, t => do
        let r ← t.sys.rpcs[i]?
        let request ← t.requests[i]?
        let stage ← r.next t.sys
        let t' := { t with sys := { t.sys with rpcs := t.sys.rpcs.set i { r with stage } } }
        match stage with
        | .finished .called => if i ∈ t.order then some t' else none
        | .finished outcome => some (t'.refuse i request outcome)
        | _ => some t'
    | .handle i, t => do
        let r ← t.sys.rpcs[i]?
        let request ← t.requests[i]?
        match r.stage with
        | .holding client => if i ∈ t.order then none else some (t.handle world i request client)
        | _ => none

variable {config : InfrastructureConfig} {world : Downstream}

/-- A step of the traffic is one of the threads, or an instance handles a call. -/
theorem traffic_cases {e : Event} {t t' : Traffic} (ran : (traffic config world).step e t = some t') :
    (∃ l sys, (machine config).step l t.sys = some sys ∧ sys.rpcs = t.sys.rpcs ∧
      t' = { t with sys }) ∨
    (∃ server request sys, (machine config).step
        (.accept server (relay request).service (relay request).cameraId) t.sys = some sys ∧
      t' = { t with sys, requests := t.requests ++ [request] }) ∨
    (∃ i r request stage sys, t.sys.rpcs[i]? = some r ∧ t.requests[i]? = some request ∧
      r.next t.sys = some stage ∧ (machine config).step (.rpc i) t.sys = some sys ∧
      sys.rpcs = t.sys.rpcs.set i { r with stage } ∧
      ((t' = { t with sys } ∧ ((∀ outcome, stage ≠ .finished outcome) ∨
          stage = .finished .called ∧ i ∈ t.order)) ∨
        ∃ outcome, stage = .finished outcome ∧ outcome ≠ .called ∧
          t' = Traffic.refuse i request outcome { t with sys })) ∨
    (∃ i r request client, t.sys.rpcs[i]? = some r ∧ t.requests[i]? = some request ∧
      r.stage = .holding client ∧ i ∉ t.order ∧ t' = t.handle world i request client) := by
  cases e with
  | startAsync =>
      obtain ⟨sys, step, rfl⟩ := Option.map_eq_some_iff.mp ran
      obtain ⟨-, same⟩ := step_cases step
      exact .inl ⟨.startAsync, sys, step, by rw [same], rfl⟩
  | stop =>
      obtain ⟨sys, step, rfl⟩ := Option.map_eq_some_iff.mp ran
      obtain ⟨-, same⟩ := step_cases step
      exact .inl ⟨.stop, sys, step, by rw [same], rfl⟩
  | ctrl w =>
      obtain ⟨sys, step, rfl⟩ := Option.map_eq_some_iff.mp ran
      exact .inl ⟨.ctrl w, sys, step, (Sys.ctrl_spends (step_cases step)).2, rfl⟩
  | loop i =>
      obtain ⟨sys, step, rfl⟩ := Option.map_eq_some_iff.mp ran
      obtain ⟨_, _, _, -, -, same⟩ := step_cases step
      exact .inl ⟨.loop i, sys, step, by rw [same], rfl⟩
  | accept server request =>
      obtain ⟨sys, step, rfl⟩ := Option.map_eq_some_iff.mp ran
      exact .inr (.inl ⟨server, request, sys, step, rfl⟩)
  | rpc i =>
      simp only [traffic, Option.bind_eq_bind, Option.bind_eq_some_iff] at ran
      obtain ⟨r, at_, request, asked, stage, next, ran⟩ := ran
      have step : (machine config).step (.rpc i) t.sys =
          some { t.sys with rpcs := t.sys.rpcs.set i { r with stage } } := by
        simp [machine, at_, next]
      refine .inr (.inr (.inl ⟨i, r, request, stage, _, at_, asked, next, step, rfl, ?_⟩))
      split at ran
      · split at ran
        · rename_i settled
          cases ran
          exact .inl ⟨rfl, .inr ⟨rfl, settled⟩⟩
        · cases ran
      · rename_i outcome other
        cases ran
        refine .inr ⟨outcome, rfl, ?_, rfl⟩
        rintro rfl
        exact other rfl
      · rename_i unfinished
        cases ran
        exact .inl ⟨rfl, .inl fun outcome ended => unfinished outcome ended⟩
  | handle i =>
      simp only [traffic, Option.bind_eq_bind, Option.bind_eq_some_iff] at ran
      obtain ⟨r, at_, request, asked, ran⟩ := ran
      split at ran
      · rename_i client holding
        split at ran
        · cases ran
        · rename_i unsettled
          cases ran
          exact .inr (.inr (.inr ⟨i, r, request, client, at_, asked, holding, unsettled, rfl⟩))
      · cases ran

/-! ### The invariant -/

/-- The replies so far are those of the cameras, and the instances are where these are.
Within a step one RPC may be `pending`: at its end and without a reply. -/
structure Coherent (config : InfrastructureConfig) (fault : Nat → Option String)
    (initial : String → Device) (pending : Option Nat) (t : Traffic) : Prop where
  orderly : t.sys.Orderly
  stocked : t.sys.Stocked config
  answered : ∀ r ∈ t.sys.rpcs, r.Answered config
  asked : t.sys.rpcs.map (fun r => (r.service, r.cameraId)) =
    t.requests.map fun request => ((relay request).service, (relay request).cameraId)
  unique : t.order.Nodup
  settled : ∀ i ∈ t.order, ∃ r, t.sys.rpcs[i]? = some r ∧
    ((∃ outcome, r.stage = .finished outcome) ∨ ∃ client, r.stage = .holding client)
  finished : ∀ i r outcome, t.sys.rpcs[i]? = some r → r.stage = .finished outcome →
    i ∈ t.order ∨ pending = some i
  own : ∀ p ∈ t.answers, t.requests[p.1]? = some p.2.1
  replies : (serveAll (Cameras.step fault) t.served (.new config initial)).1 =
    t.answers.map Prod.snd
  related : Related (tableOf config) fault initial t.sent
    (serveAll (Cameras.step fault) t.served (.new config initial)).2

variable {fault : Nat → Option String} {initial : String → Device}

theorem coherent_init : Coherent config fault initial none .init where
  orderly := .init
  stocked := Sys.stocked_init config
  answered _ mem := absurd mem List.not_mem_nil
  asked := rfl
  unique := List.nodup_nil
  settled _ mem := absurd mem List.not_mem_nil
  finished _ _ _ at_ := by cases at_
  own _ mem := absurd mem List.not_mem_nil
  replies := rfl
  related := related_new config

namespace Coherent

variable {pending : Option Nat} {t : Traffic}

theorem pend (c : Coherent config fault initial none t) (i : Nat) :
    Coherent config fault initial (some i) t :=
  { c with
    finished := fun j r outcome at_ ended =>
      (c.finished j r outcome at_ ended).imp_right fun none => by cases none }

variable (c : Coherent config fault initial pending t)

include c

/-- The threads go on and the RPCs stay as they are. -/
theorem aside {l : Label} {sys : Sys} (step : (machine config).step l t.sys = some sys)
    (rpcs : sys.rpcs = t.sys.rpcs) : Coherent config fault initial pending { t with sys } where
  orderly := Sys.orderly_step c.orderly step
  stocked := Sys.stocked_step c.orderly c.stocked step
  answered := answered_step c.orderly c.stocked c.answered step
  asked := by simpa only [rpcs] using c.asked
  unique := c.unique
  settled := by
    simp only [rpcs]
    exact c.settled
  finished := by
    simp only [rpcs]
    exact c.finished
  own := c.own
  replies := c.replies
  related := c.related

/-- An RPC is accepted. -/
theorem accept {server : Server} {request : CoreService} {sys : Sys}
    (step : (machine config).step
      (.accept server (relay request).service (relay request).cameraId) t.sys = some sys) :
    Coherent config fault initial pending { t with sys, requests := t.requests ++ [request] } := by
  have rpcs : sys.rpcs = t.sys.rpcs ++
      [⟨server, (relay request).service, (relay request).cameraId, .accepted⟩] := by
    rw [(step_cases step).2]
  refine ⟨Sys.orderly_step c.orderly step, Sys.stocked_step c.orderly c.stocked step,
    answered_step c.orderly c.stocked c.answered step, ?_, c.unique, ?_, ?_, ?_, c.replies,
    c.related⟩
  · simp only [rpcs, List.map_append, c.asked]
    rfl
  · intro i mem
    obtain ⟨r, at_, stage⟩ := c.settled i mem
    refine ⟨r, ?_, stage⟩
    rw [rpcs, List.getElem?_append_left (List.getElem?_eq_some_iff.mp at_).1, at_]
  · intro i r outcome at_ stage
    simp only [rpcs] at at_
    rcases Nat.lt_or_ge i t.sys.rpcs.length with old | new
    · rw [List.getElem?_append_left old] at at_
      exact c.finished i r outcome at_ stage
    · rw [List.getElem?_append_right new] at at_
      obtain rfl := List.mem_singleton.mp (List.mem_of_getElem? at_)
      cases stage
  · intro p mem
    have asked := c.own p mem
    rw [List.getElem?_append_left (List.getElem?_eq_some_iff.mp asked).1, asked]

/-- What an RPC asks for. -/
theorem request_of {i : Nat} {r : Rpc} {request : CoreService} (at_ : t.sys.rpcs[i]? = some r)
    (asked : t.requests[i]? = some request) :
    (relay request).service = r.service ∧ (relay request).cameraId = r.cameraId := by
  have both := congrArg (fun xs => xs[i]?) c.asked
  simp only [List.getElem?_map, at_, asked, Option.map_some, Option.some.injEq,
    Prod.mk.injEq] at both
  exact ⟨both.1.symm, both.2.symm⟩

/-- A settled RPC that goes on is at its end. -/
theorem next_of_settled {i : Nat} {r : Rpc} {stage : Stage} (at_ : t.sys.rpcs[i]? = some r)
    (next : r.next t.sys = some stage) (mem : i ∈ t.order) : stage = .finished .called := by
  obtain ⟨r', at', ended⟩ := c.settled i mem
  rw [at_] at at'
  cases at'
  rcases ended with ⟨outcome, ended⟩ | ⟨client, holding⟩
  · exact absurd ended (Sys.inFlight_of_next next outcome)
  · rw [Rpc.next, holding] at next
    exact (Option.some.inj next).symm

/-- An RPC goes on, without a reply or after it. -/
theorem advance {i : Nat} {r : Rpc} {stage : Stage} {sys : Sys}
    (at_ : t.sys.rpcs[i]? = some r) (next : r.next t.sys = some stage)
    (step : (machine config).step (.rpc i) t.sys = some sys)
    (rpcs : sys.rpcs = t.sys.rpcs.set i { r with stage })
    (settles : ∀ outcome, stage = .finished outcome → i ∈ t.order ∨ pending = some i) :
    Coherent config fault initial pending { t with sys } := by
  have bounded := (List.getElem?_eq_some_iff.mp at_).1
  refine ⟨Sys.orderly_step c.orderly step, Sys.stocked_step c.orderly c.stocked step,
    answered_step c.orderly c.stocked c.answered step, ?_, c.unique, ?_, ?_, c.own, c.replies,
    c.related⟩
  · -- what the RPC asks for stays
    have same : (t.sys.rpcs.map fun r => (r.service, r.cameraId)).set i (r.service, r.cameraId) =
        t.sys.rpcs.map fun r => (r.service, r.cameraId) := by
      obtain ⟨_, rfl⟩ := List.getElem?_eq_some_iff.mp at_
      rw [← List.map_set, List.set_getElem_self]
    simp only [rpcs, List.map_set]
    rw [same, c.asked]
  · intro j mem
    by_cases here : i = j
    · subst here
      refine ⟨{ r with stage }, ?_, .inl ⟨.called, c.next_of_settled at_ next mem⟩⟩
      rw [rpcs, List.getElem?_set_self bounded]
    · obtain ⟨r', at', ended⟩ := c.settled j mem
      exact ⟨r', by rw [rpcs, List.getElem?_set_ne here, at'], ended⟩
  · intro j r' outcome at' ended
    simp only [rpcs] at at'
    by_cases here : i = j
    · subst here
      rw [List.getElem?_set_self bounded] at at'
      cases at'
      exact settles outcome ended
    · rw [List.getElem?_set_ne here] at at'
      exact c.finished j r' outcome at' ended

/-- The reply of an RPC is settled: the cameras give the same one. -/
theorem settle {i : Nat} {r : Rpc} {request : CoreService} {reply : Reply request.Response}
    {sent : List Sent} (at_ : t.sys.rpcs[i]? = some r) (asked : t.requests[i]? = some request)
    (ended : (∃ outcome, r.stage = .finished outcome) ∨ ∃ client, r.stage = .holding client)
    (unsettled : i ∉ t.order) (only : ∀ j, pending = some j → j = i)
    (answer : reply = (Cameras.step fault request
      (serveAll (Cameras.step fault) t.served (.new config initial)).2).1)
    (related : Related (tableOf config) fault initial sent (Cameras.step fault request
      (serveAll (Cameras.step fault) t.served (.new config initial)).2).2) :
    Coherent config fault initial none
      { t with sent, answers := t.answers ++ [(i, ⟨request, reply⟩)] } := by
  have order : Traffic.order { t with sent, answers := t.answers ++ [(i, ⟨request, reply⟩)] } =
      t.order ++ [i] := List.map_append
  have served : Traffic.served { t with sent, answers := t.answers ++ [(i, ⟨request, reply⟩)] } =
      t.served ++ [request] := List.map_append
  refine ⟨c.orderly, c.stocked, c.answered, c.asked, ?_, ?_, ?_, ?_, ?_, ?_⟩
  · rw [order, List.nodup_append]
    refine ⟨c.unique, List.nodup_singleton i, ?_⟩
    rintro j mem _ mem' rfl
    exact unsettled (List.mem_singleton.mp mem' ▸ mem)
  · intro j mem
    rw [order] at mem
    rcases List.mem_append.mp mem with old | new
    · exact c.settled j old
    · obtain rfl := List.mem_singleton.mp new
      exact ⟨r, at_, ended⟩
  · intro j r' outcome at' done
    rw [order]
    rcases c.finished j r' outcome at' done with settled | mine
    · exact .inl (List.mem_append_left _ settled)
    · rw [only j mine]
      exact .inl (List.mem_append_right _ (List.mem_singleton_self i))
  · intro p mem
    rcases List.mem_append.mp mem with old | new
    · exact c.own p old
    · obtain rfl := List.mem_singleton.mp new
      exact asked
  · rw [served, serveAll_append, c.replies, ← answer, List.map_append]
    rfl
  · rw [served, serveAll_append]
    exact related

end Coherent

/-- With both services configured, an RPC that ends without a call has no client. -/
theorem unavailable_of_answered (both : BothServices config) {r : Rpc} {outcome : Outcome}
    (answered : r.Answered config) (ended : r.stage = .finished outcome) (uncalled : outcome ≠ .called) :
    outcome = .unavailable ∧ tableOf config r.cameraId r.service = none := by
  have listed : routes config r.service.name ≠ [] := by
    obtain ⟨client, found⟩ := both.listed r.service
    have valid := (InfrastructureConfig.validate_iff.mp both.accepted).clients _ _ found
    rw [routes, instancesOf_found found]
    obtain ⟨i, rest, same⟩ := List.exists_cons_of_ne_nil valid.1
    rw [same, assignments]
    exact List.cons_ne_nil _ _
  have told := answered.2 outcome ended
  rw [answer, if_neg listed] at told
  split at told
  · exact absurd told uncalled
  · rename_i missing
    exact ⟨told, Option.not_isSome_iff_eq_none.mp missing⟩

theorem coherent_step (both : BothServices config) (unshared : Unshared config) {e : Event}
    {t t' : Traffic} (c : Coherent config fault initial none t)
    (ran : (traffic config (registers fault initial)).step e t = some t') :
    Coherent config fault initial none t' := by
  have separate := separate_of_config both unshared
  rcases traffic_cases ran with ⟨l, sys, step, rpcs, rfl⟩ | ⟨server, request, sys, step, rfl⟩ |
    ⟨i, r, request, stage, sys, at_, asked, next, step, rpcs, outcome⟩ |
    ⟨i, r, request, client, at_, asked, holding, unsettled, rfl⟩
  · exact c.aside step rpcs
  · exact c.accept step
  · rcases outcome with ⟨rfl, goes⟩ | ⟨outcome, rfl, uncalled, rfl⟩
    · refine c.advance at_ next step rpcs ?_
      intro outcome ended
      rcases goes with unfinished | ⟨-, mem⟩
      · exact absurd ended (unfinished outcome)
      · exact .inl mem
    · -- it ends without a call: the cameras refuse it too
      have unsettled : i ∉ t.order := by
        intro mem
        cases c.next_of_settled at_ next mem
        exact uncalled rfl
      have c' := (c.pend i).advance at_ next step rpcs fun _ _ => .inr rfl
      have there : sys.rpcs[i]? = some { r with stage := .finished outcome } := by
        rw [rpcs, List.getElem?_set_self (List.getElem?_eq_some_iff.mp at_).1]
      obtain ⟨rfl, missing⟩ := unavailable_of_answered both
        (c'.answered _ (List.mem_of_getElem? there)) rfl uncalled
      obtain ⟨service, cameraId⟩ := c.request_of at_ asked
      have refused := refuse_refined c'.related request (by rw [service, cameraId]; exact missing)
      have only : ∀ j, some i = some j → j = i := fun _ same => (Option.some.inj same).symm
      refine c'.settle there asked (.inl ⟨_, rfl⟩) unsettled only ?_ ?_
      · rw [refused]
      · rw [refused]
        exact c'.related
  · -- the instance handles the call
    obtain ⟨service, cameraId⟩ := c.request_of at_ asked
    have found : tableOf config (relay request).cameraId (relay request).service = some client := by
      rw [service, cameraId]
      exact (c.answered r (List.mem_of_getElem? at_)).1 client holding
    obtain ⟨answer, related⟩ := separate.serve_refined c.related request found
    have only : ∀ j, none = some j → j = i := by simp
    exact c.settle at_ asked (.inr ⟨client, holding⟩) unsettled only answer related

theorem coherent_of_reach (both : BothServices config) (unshared : Unshared config) {t : Traffic}
    (reach : (traffic config (registers fault initial)).Reach t) :
    Coherent config fault initial none t :=
  reach.invariant coherent_init fun _ _ _ c _ ran => coherent_step both unshared c ran

/-! ### Linearizability -/

/-- The replies are those of the cameras, asked one after the other in this order; every RPC
that has ended is in it, once and with its own request. -/
structure Linearized (config : InfrastructureConfig) (fault : Nat → Option String)
    (initial : String → Device) (t : Traffic) : Prop where
  replies : (serveAll (Cameras.step fault) t.served (.new config initial)).1 =
    t.answers.map Prod.snd
  own : ∀ p ∈ t.answers, t.requests[p.1]? = some p.2.1
  once : t.order.Nodup
  complete : ∀ i r, t.sys.rpcs[i]? = some r → ¬ r.InFlight → i ∈ t.order

/-- The first comes before the second. -/
def Before (i j : Nat) (order : List Nat) : Prop :=
  ∃ first rest, order = first ++ rest ∧ i ∈ first ∧ j ∈ rest

/-- What is settled stays settled. -/
theorem order_grows {es : List Event} {t t' : Traffic}
    (ran : (traffic config world).exec es t = some t') :
    ∃ later, t'.order = t.order ++ later := by
  induction es generalizing t with
  | nil =>
      cases ran
      exact ⟨[], (List.append_nil _).symm⟩
  | cons e es ih =>
      simp only [Machine.exec_cons, Option.bind_eq_some_iff] at ran
      obtain ⟨mid, step, rest⟩ := ran
      obtain ⟨later, grown⟩ := ih rest
      have stepped : ∃ now, mid.order = t.order ++ now := by
        rcases traffic_cases step with ⟨_, _, _, _, rfl⟩ | ⟨_, _, _, _, rfl⟩ |
          ⟨i, r, request, stage, sys, _, _, _, _, _, ⟨rfl, _⟩ | ⟨outcome, _, _, rfl⟩⟩ |
          ⟨i, r, request, client, _, _, _, _, rfl⟩
        · exact ⟨[], (List.append_nil _).symm⟩
        · exact ⟨[], (List.append_nil _).symm⟩
        · exact ⟨[], (List.append_nil _).symm⟩
        · unfold Traffic.refuse
          split
          · exact ⟨[], (List.append_nil _).symm⟩
          · exact ⟨[i], List.map_append⟩
        · exact ⟨[i], List.map_append⟩
      obtain ⟨now, stepped⟩ := stepped
      exact ⟨now ++ later, by rw [grown, stepped, List.append_assoc]⟩

/-- Overlapping RPCs are answered as if the cameras were asked one after the other: an RPC
that has ended comes before every RPC that is accepted later. -/
theorem linearizable (both : BothServices config) (unshared : Unshared config)
    {t t' : Traffic} {es : List Event}
    (reach : (traffic config (registers fault initial)).Reach t)
    (ran : (traffic config (registers fault initial)).exec es t = some t') :
    Linearized config fault initial t' ∧
      ∀ i j r, t.sys.rpcs[i]? = some r → ¬ r.InFlight → t.sys.rpcs.length ≤ j → j ∈ t'.order →
        Before i j t'.order := by
  have c := coherent_of_reach both unshared reach
  have c' := coherent_of_reach both unshared
    (.of_exec reach (fun _ _ => trivial) ran)
  have complete : ∀ {t : Traffic}, Coherent config fault initial none t →
      ∀ i r, t.sys.rpcs[i]? = some r → ¬ r.InFlight → i ∈ t.order := by
    intro t c i r at_ landed
    simp only [Rpc.InFlight, ne_eq, not_forall, not_not] at landed
    obtain ⟨outcome, ended⟩ := landed
    rcases c.finished i r outcome at_ ended with settled | pending
    · exact settled
    · cases pending
  refine ⟨⟨c'.replies, c'.own, c'.unique, complete c'⟩, ?_⟩
  intro i j r at_ landed later mem
  obtain ⟨rest, grown⟩ := order_grows ran
  refine ⟨t.order, rest, grown, complete c i r at_ landed, ?_⟩
  rw [grown] at mem
  rcases List.mem_append.mp mem with early | late
  · -- what is settled in `t` is an RPC of `t`
    obtain ⟨r', at', -⟩ := c.settled j early
    exact absurd (List.getElem?_eq_some_iff.mp at').1 (Nat.not_lt.mpr later)
  · exact late

/-- A zoom that is set while it is read: the reading RPC comes later and is handled first. -/
def overlappingRun : List Event :=
  .startAsync :: List.replicate 11 (Event.ctrl .fine) ++
    [Event.accept 0 (.setZoom 0 5), .rpc 0, .rpc 0, .rpc 0, .accept 0 (.getZoom 0), .rpc 1, .rpc 1,
      .rpc 1, .handle 1, .handle 0, .rpc 1, .rpc 0]

/-- The zoom is read again. -/
def rereadingRun : List Event :=
  [.accept 0 (.getZoom 0), .rpc 2, .rpc 2, .rpc 2, .handle 2, .rpc 2]

theorem linearizable_rereadingRun :
    ∃ t t', (traffic Core.pairedConfig (registers (fun _ => none) fun _ => restingDevice)).exec
        overlappingRun .init = some t ∧
      (traffic Core.pairedConfig (registers (fun _ => none) fun _ => restingDevice)).exec
        rereadingRun t = some t' ∧
      t'.answers = [(1, ⟨.getZoom 0, ⟨[.ok], (0 : UInt32)⟩⟩), (0, ⟨.setZoom 0 5, ⟨[.ok], ()⟩⟩),
        (2, ⟨.getZoom 0, ⟨[.ok], (5 : UInt32)⟩⟩)] ∧
      Linearized Core.pairedConfig (fun _ => none) (fun _ => restingDevice) t' ∧
      Before 0 2 t'.order := by
  have both : BothServices Core.pairedConfig := ⟨rfl, fun service => by
    cases service <;> exact ⟨_, rfl⟩⟩
  have unshared : Unshared Core.pairedConfig := by
    intro service
    cases service <;> decide
  have ends : ((traffic Core.pairedConfig (registers (fun _ => none) fun _ => restingDevice)).exec
      overlappingRun .init).map (fun t => t.sys.rpcs.map Rpc.stage) =
        some [.finished .called, .finished .called] := rfl
  have ends' : ((traffic Core.pairedConfig (registers (fun _ => none) fun _ => restingDevice)).exec
      (overlappingRun ++ rereadingRun) .init).map Traffic.answers =
        some [(1, ⟨.getZoom 0, ⟨[.ok], (0 : UInt32)⟩⟩), (0, ⟨.setZoom 0 5, ⟨[.ok], ()⟩⟩),
          (2, ⟨.getZoom 0, ⟨[.ok], (5 : UInt32)⟩⟩)] := rfl
  obtain ⟨t, ran, stages⟩ := Option.map_eq_some_iff.mp ends
  rw [Machine.exec_append, ran, Option.bind_some] at ends'
  obtain ⟨t', ran', answers⟩ := Option.map_eq_some_iff.mp ends'
  obtain ⟨linearized, before⟩ :=
    linearizable both unshared (.of_exec .init (fun _ _ => trivial) ran) ran'
  have first := congrArg (fun xs => xs[0]?) stages
  rw [List.getElem?_map] at first
  obtain ⟨r, at_, ended⟩ := Option.map_eq_some_iff.mp first
  have length : t.sys.rpcs.length = 2 := by
    have := congrArg List.length stages
    rwa [List.length_map] at this
  refine ⟨t, t', ran, ran', answers, linearized, before 0 2 r at_ (fun flying => ?_) ?_ ?_⟩
  · exact flying _ ended
  · exact length.le
  · rw [Traffic.order, answers]
    simp

end SensorCore.Threads
