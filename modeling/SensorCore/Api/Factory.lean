import SensorCore.Api.Stack
import SensorCore.Network.Interfaces

/-!
`ApiControllerFactory`: the controller a configuration asks for.

The wildcard address `0.0.0.0:50051` is replaced by the primary address of the device,
so the address the server binds to depends on the interfaces. How far it does is
`wildcard_up_to_ties`: the order in which the interfaces are listed and the sort matter
only where several interfaces share the best rank, for the source ranks by kind of name
alone and has nothing to break ties with.
-/

namespace SensorCore.Api

open SensorCore.Lib SensorCore.Config SensorCore.Network

/-- What the factory and the constructors throw. -/
inductive Exception where
  | invalidArgument (what : String)
  | runtimeError (what : String)
  deriving DecidableEq, Repr

/-- The constructor. Handler and transport are never null here. -/
def ApiController.construct {τ κ : Type} (requestHandler : RequestHandler κ) (transport : τ)
    (serverAddress : String) : Except Exception (ApiController τ κ) :=
  if serverAddress = "" then .error (.invalidArgument "Server address cannot be empty")
  else .ok { requestHandler, transport, serverAddress, isRunning := false }

namespace ApiControllerFactory

/-- The address that stands for the device's own. -/
def wildcard : String := "0.0.0.0:50051"

section

variable (std : Sorter ByPriority) (ifaddr : Except String (List IfAddrs))

/-- The configured address, with the wildcard replaced. -/
def bindAddress (serverAddress : String) : Except Exception String :=
  if serverAddress = wildcard then
    match getPrimaryIpAddress std ifaddr with
    | .error e => .error (.runtimeError ("Failed to get device IP: " ++ e))
    | .ok ip => .ok (ip ++ ":50051")
  else .ok serverAddress

def createController {κ : Type} (core : Option κ) (config : ApiConfig) :
    Except Exception (ApiController GrpcTransport κ) :=
  match core with
  | none => .error (.invalidArgument "Core cannot be null")
  | some core => do
      let serverAddress ← bindAddress std ifaddr config.serverAddress
      if config.api = "grpc" then
        ApiController.construct ⟨core, false⟩ GrpcTransport.new serverAddress
      else .error (.invalidArgument ("Unknown API controller type: " ++ config.api))

end

variable {std std' : Sorter ByPriority} {ifaddr ifaddr' : Except String (List IfAddrs)}

/-- The address to bind to is never empty when the configured one is not. -/
theorem bindAddress_ne_empty {serverAddress address : String} (given : serverAddress ≠ "")
    (bound : bindAddress std ifaddr serverAddress = .ok address) : address ≠ "" := by
  unfold bindAddress at bound
  split at bound
  · split at bound
    · cases bound
    · cases bound
      intro empty
      have length := congrArg String.length empty
      rw [String.length_append] at length
      have port : ":50051".length = 6 := rfl
      rw [port, String.length_empty] at length
      omega
  · cases bound
    exact given

/-- With an accepted configuration only the primary address can be missing; the controller
is at rest, over the core it was given. -/
theorem createController_accepted {κ : Type} (core : κ) {config : ApiConfig}
    (accepted : config.validate = .ok ()) :
    createController std ifaddr (some core) config =
      (bindAddress std ifaddr config.serverAddress).map fun address =>
        ⟨⟨core, false⟩, GrpcTransport.new, address, false⟩ := by
  obtain ⟨known, given, -⟩ := ApiConfig.validate_iff.mp accepted
  have grpc : config.api = "grpc" := List.mem_singleton.mp known
  unfold createController
  cases bound : bindAddress std ifaddr config.serverAddress with
  | error e => rfl
  | ok address =>
      simp only [ok_bind, grpc, if_true, ApiController.construct,
        if_neg (bindAddress_ne_empty given bound)]
      rfl

/-- Over a new core the factory builds the stack of the proofs about runs. -/
theorem createController_stack (config : InfrastructureConfig) {api : ApiConfig} {address : String}
    (accepted : api.validate = .ok ())
    (bound : bindAddress std ifaddr api.serverAddress = .ok address) :
    createController std ifaddr (some (Core.new config)) api = .ok (Stack.new config address) := by
  rw [createController_accepted _ accepted, bound]
  rfl

/-- Under the wildcard, controllers differ exactly where the primary addresses do. -/
theorem createController_wildcard_iff {κ : Type} (core : κ) :
    createController std ifaddr (some core) ⟨"grpc", wildcard⟩ =
        createController std' ifaddr' (some core) ⟨"grpc", wildcard⟩ ↔
      getPrimaryIpAddress std ifaddr = getPrimaryIpAddress std' ifaddr' := by
  have accepted : (ApiConfig.mk "grpc" wildcard).validate = .ok () := rfl
  rw [createController_accepted core accepted, createController_accepted core accepted]
  simp only [bindAddress, if_true]
  cases getPrimaryIpAddress std ifaddr <;> cases getPrimaryIpAddress std' ifaddr' <;>
    simp [Except.map]

/-- The interfaces determine the primary address up to ties: for two listings of the same
entries, and any two sorts, both calls fail alike or both choose among the best entries.
The primary address, and with it the controller under the wildcard, is the same for all
listings and sorts exactly when the best entries have one address. -/
theorem wildcard_up_to_ties {κ : Type} (core : κ) (entries : List IfAddrs) :
    (∀ (std std' : Sorter ByPriority) (listed listed' : List IfAddrs), listed.Perm entries →
        listed'.Perm entries →
        Tied entries (getPrimaryIpAddress std (.ok listed))
          (getPrimaryIpAddress std' (.ok listed'))) ∧
    ((∀ (std std' : Sorter ByPriority) (listed listed' : List IfAddrs), listed.Perm entries →
        listed'.Perm entries →
        getPrimaryIpAddress std (.ok listed) = getPrimaryIpAddress std' (.ok listed')) ↔
      OneAddress entries) ∧
    ((∀ (std std' : Sorter ByPriority) (listed listed' : List IfAddrs), listed.Perm entries →
        listed'.Perm entries →
        createController std (.ok listed) (some core) ⟨"grpc", wildcard⟩ =
          createController std' (.ok listed') (some core) ⟨"grpc", wildcard⟩) ↔
      OneAddress entries) := by
  refine ⟨fun std std' _ _ perm perm' => primary_tied std std' perm perm',
    primary_agree_iff entries, ?_⟩
  simp only [createController_wildcard_iff]
  exact primary_agree_iff entries

/-- Two interfaces of one kind. -/
def twoCards : List IfAddrs :=
  [⟨"eth1", some ⟨afInet, ⟨10, 0, 0, 1⟩⟩, 0x1⟩, ⟨"eth2", some ⟨afInet, ⟨10, 0, 0, 2⟩⟩, 0x1⟩]

/-- Listed the other way round, they give the other address, with a stable sort too. -/
theorem twoCards_order_matters :
    ¬ ∀ (std std' : Sorter ByPriority) (listed listed' : List IfAddrs), listed.Perm listed' →
      getPrimaryIpAddress std (.ok listed) = getPrimaryIpAddress std' (.ok listed') := by
  intro agree
  have same := agree (.insertion _) (.insertion _) twoCards twoCards.reverse
    (List.reverse_perm twoCards).symm
  have first : getPrimaryIpAddress (.insertion _) (.ok twoCards) = .ok "10.0.0.1" := rfl
  have second : getPrimaryIpAddress (.insertion _) (.ok twoCards.reverse) = .ok "10.0.0.2" := rfl
  rw [first, second] at same
  exact absurd same (by decide)

end ApiControllerFactory

end SensorCore.Api
