import SensorCore.Config.Model
import SensorCore.Lib.Yaml

/-!
`ConfigManager`: loading a configuration from a YAML tree.

The loader starts from an empty configuration and overwrites the fields it finds;
a field that is absent stays empty and is left to the validator. A client is written
as a sequence of instances or, in the older form, as one address that gets id 0. The
first client of a name is kept.

`loads_written` is the round trip: every accepted configuration is read back from the
tree that writes it, whichever clients with one instance of id 0 use the older form.
-/

namespace SensorCore.Config

open SensorCore.Lib SensorCore.Lib.Yaml

/-- What the loader throws: an exception of the YAML library, or one of its own. -/
inductive LoadError where
  | yaml (e : YamlException)
  | runtime (what : String)
  deriving DecidableEq, Repr

/-- Use the YAML library. -/
def yaml {α : Type} : Except YamlException α → Except LoadError α
  | .ok value => .ok value
  | .error e => .error (.yaml e)

@[simp] theorem yaml_ok {α : Type} (value : α) : yaml (.ok value) = .ok value := rfl

/-- `if (node[key]) { field = node[key].as<std::string>(); }` -/
def loadString {σ : Type} (node : Node) (key : String) (set : String → σ) (unset : σ) :
    Except LoadError σ := do
  match ← yaml (node.get key) with
  | none => return unset
  | some value => return set (← yaml value.asString)

/-- A field that is there as a scalar is used. -/
theorem loadString_scalar {σ : Type} {node : Node} {key text : String}
    (found : node.get key = .ok (some (.scalar text))) (set : String → σ) (unset : σ) :
    loadString node key set unset = .ok (set text) := by
  rw [loadString, found]
  rfl

namespace ConfigManager

/-- The configuration before anything is loaded. -/
def emptyConfig : AppConfig :=
  { apiConfig := ⟨"", ""⟩, coreConfig := ⟨⟩, infrastructureConfig := ⟨∅⟩, logLevel := "", name := "" }

def loadApiConfig (appNode : Node) (c : AppConfig) : Except LoadError AppConfig := do
  match ← yaml (appNode.get "api") with
  | none => return c
  | some apiNode =>
      let c ← loadString apiNode "api_type"
        (fun api => { c with apiConfig := { c.apiConfig with api } }) c
      loadString apiNode "server_address"
        (fun serverAddress => { c with apiConfig := { c.apiConfig with serverAddress } }) c

section Clients

/- How yaml-cpp reads a `uint32_t`. -/
variable (decode : String → Option UInt32)

def loadInstance (instanceNode : Node) : Except LoadError ServiceInstance := do
  match ← yaml (instanceNode.get "id") with
  | none => throw (.runtime "Service instance must have an 'id' field")
  | some idNode =>
      let id ← yaml (idNode.asNumber decode)
      match ← yaml (instanceNode.get "address") with
      | none => throw (.runtime "Service instance must have an 'address' field")
      | some addressNode => return ⟨id, ← yaml addressNode.asString⟩

/-- A value of `instances` that is not a sequence counts as absent. -/
def loadClient (clientNode : Node) : Except LoadError ClientConfig := do
  match ← yaml (clientNode.get "instances") with
  | some (.sequence instancesNode) => return ⟨← instancesNode.mapM (loadInstance decode)⟩
  | _ =>
      match ← yaml (clientNode.get "address") with
      | none => return ⟨[]⟩
      | some addressNode => return ⟨[⟨0, ← yaml addressNode.asString⟩]⟩

/-- The loop over the client entries. -/
def loadClients : List (Node × Node) → UnorderedMap String ClientConfig →
    Except LoadError (UnorderedMap String ClientConfig)
  | [], clients => return clients
  | (nameNode, clientNode) :: rest, clients => do
      let clientName ← yaml nameNode.asString
      let clientConfig ← loadClient decode clientNode
      loadClients rest (clients.emplace clientName clientConfig)

def loadInfrastructureConfig (appNode : Node) (c : AppConfig) : Except LoadError AppConfig := do
  match ← yaml (appNode.get "infrastructure") with
  | none => return c
  | some infrastructureNode =>
      match ← yaml (infrastructureNode.get "clients") with
      | none => return c
      | some (.map entries) =>
          return { c with infrastructureConfig := ⟨← loadClients decode entries ∅⟩ }
      | some _ => throw (.runtime "Clients must be a key/value map")

def loadAppConfig (appNode : Node) (c : AppConfig) : Except LoadError AppConfig := do
  let c ← loadString appNode "log_level" (fun logLevel => { c with logLevel }) c
  loadString appNode "name" (fun name => { c with name }) c

/-- The body of the `try` in `loadFromFile`. -/
def loadTree (config : Node) (c : AppConfig) : Except LoadError AppConfig := do
  match ← yaml (config.get "app") with
  | none => return c
  | some appNode =>
      let c ← loadApiConfig appNode c
      let c ← loadInfrastructureConfig decode appNode c
      loadAppConfig appNode c

/-- What is found under a file name: nothing, a text that does not parse, or a tree. -/
abbrev File := Option (Except YamlException Node)

def loadFromFile (file : Except YamlException Node) (c : AppConfig) : Except String AppConfig :=
  match yaml file >>= fun config => loadTree decode config c with
  | .ok c => .ok c
  | .error (.yaml e) => .error ("YAML parsing error: " ++ e.what)
  | .error (.runtime what) => .error what

/-- The constructor: the configuration it leaves in `app_config_`, or what it throws. -/
def new (filename : String) (file : File) : Except String AppConfig :=
  match file with
  | none => .error ("Configuration file does not exist: " ++ filename)
  | some file => do
      let c ← loadFromFile decode file emptyConfig
      c.validate
      return c

end Clients

/-! ### Writing a configuration -/

section Writing

variable (encode : UInt32 → String)

def writeInstance (i : ServiceInstance) : Node :=
  object [("id", .scalar (encode i.id)), ("address", .scalar i.address)]

/-- A client as a sequence of instances, or in the older form where that says the
same: for one instance with id 0. -/
def writeClient (legacy : Bool) (c : ClientConfig) : Node :=
  match c.instances with
  | [i] =>
      if legacy = true ∧ i.id = 0 then object [("address", .scalar i.address)]
      else object [("instances", .sequence [writeInstance encode i])]
  | instances => object [("instances", .sequence (instances.map (writeInstance encode)))]

def writeClients (legacy : String → Bool) (config : InfrastructureConfig) : Node :=
  object (config.clients.entries.map fun entry =>
    (entry.1, writeClient encode (legacy entry.1) entry.2))

/-- The tree of a configuration; `legacy` names the clients in the older form. -/
def writeConfig (legacy : String → Bool) (c : AppConfig) : Node :=
  object [("app", object [
    ("name", .scalar c.name),
    ("log_level", .scalar c.logLevel),
    ("api", object [
      ("api_type", .scalar c.apiConfig.api),
      ("server_address", .scalar c.apiConfig.serverAddress)]),
    ("infrastructure", object [
      ("clients", writeClients encode legacy c.infrastructureConfig)])])]

end Writing

section RoundTrip

variable {encode : UInt32 → String} {decode : String → Option UInt32}
  (decodes : ∀ n, decode (encode n) = some n)

include decodes

theorem loadInstance_write (i : ServiceInstance) :
    loadInstance decode (writeInstance encode i) = .ok i := by
  have number := Node.asNumber_scalar (decodes i.id)
  simp [loadInstance, writeInstance, number, pure, Except.pure]

/-- A written sequence is read back in order. -/
theorem loadInstances_write (is : List ServiceInstance) :
    (is.map (writeInstance encode)).mapM (loadInstance decode) = .ok is := by
  induction is with
  | nil => rfl
  | cons i rest ih =>
      rw [List.map_cons, List.mapM_cons, loadInstance_write decodes, ok_bind, ih]
      rfl

/-- Both forms of a client are read back. -/
theorem loadClient_write (legacy : Bool) (c : ClientConfig) :
    loadClient decode (writeClient encode legacy c) = .ok c := by
  have sequence : loadClient decode
      (object [("instances", .sequence (c.instances.map (writeInstance encode)))]) = .ok c := by
    simp [loadClient, loadInstances_write decodes, pure, Except.pure]
  unfold writeClient
  split
  · rename_i i single
    split
    · rename_i older
      have same : (⟨[⟨0, i.address⟩]⟩ : ClientConfig) = c := by
        obtain ⟨instances⟩ := c
        obtain ⟨id, address⟩ := i
        obtain ⟨-, rfl⟩ := older
        exact congrArg _ single.symm
      simp [loadClient, same, pure, Except.pure]
    · rw [single] at sequence
      exact sequence
  · exact sequence

/-- The loop adds the written clients behind those it has, as long as all names are
different. -/
theorem loadClients_write (legacy : String → Bool) (entries : List (Σ _ : String, ClientConfig))
    (clients : UnorderedMap String ClientConfig)
    (distinct : (clients.entries ++ entries).NodupKeys) :
    ∃ after, loadClients decode (entries.map fun entry =>
        (.scalar entry.1, writeClient encode (legacy entry.1) entry.2)) clients = .ok after ∧
      after.entries = clients.entries ++ entries := by
  induction entries generalizing clients with
  | nil => exact ⟨clients, rfl, (List.append_nil _).symm⟩
  | cons entry rest ih =>
      obtain ⟨name, client⟩ := entry
      have fresh : name ∉ clients := by
        intro taken
        rw [List.NodupKeys, List.keys_append, List.nodup_append] at distinct
        exact distinct.2.2 name taken name (by simp) rfl
      have added := UnorderedMap.entries_emplace fresh client
      obtain ⟨after, loaded, entries⟩ := ih (clients.emplace name client)
        (by rwa [added, List.append_assoc])
      refine ⟨after, ?_, by rw [entries, added, List.append_assoc]; rfl⟩
      rw [List.map_cons, loadClients, Node.asString_scalar, yaml_ok, ok_bind,
        loadClient_write decodes, ok_bind, loaded]

theorem loadInfrastructureConfig_write {legacy : String → Bool} {config : InfrastructureConfig}
    {appNode : Node} (written : appNode.get "infrastructure" =
      .ok (some (object [("clients", writeClients encode legacy config)]))) (c : AppConfig) :
    loadInfrastructureConfig decode appNode c = .ok { c with infrastructureConfig := config } := by
  obtain ⟨after, loaded, entries⟩ := loadClients_write decodes legacy config.clients.entries ∅
    config.clients.nodupKeys
  obtain rfl : after = config.clients := AList.ext entries
  have shape : writeClients encode legacy config = .map (config.clients.entries.map fun entry =>
      (.scalar entry.1, writeClient encode (legacy entry.1) entry.2)) := by
    rw [writeClients, object, List.map_map]
    rfl
  rw [loadInfrastructureConfig, written]
  simp [shape, loaded]

/-- The tree of a configuration is loaded as that configuration, whatever the fields
were before. -/
theorem loadTree_write (legacy : String → Bool) (c before : AppConfig) :
    loadTree decode (writeConfig encode legacy c) before = .ok c := by
  have infrastructure := @loadInfrastructureConfig_write _ _ decodes legacy c.infrastructureConfig
  simp [loadTree, writeConfig, loadApiConfig, loadAppConfig, loadString_scalar, infrastructure]

/-- Every accepted configuration is read back from the tree that writes it, whichever
clients with a single instance of id 0 are written in the older form. -/
theorem loads_written {c : AppConfig} (accepted : c.validate = .ok ()) (legacy : String → Bool)
    (filename : String) :
    new decode filename (some (.ok (writeConfig encode legacy c))) = .ok c := by
  have loaded : loadFromFile decode (.ok (writeConfig encode legacy c)) emptyConfig = .ok c := by
    rw [loadFromFile, yaml_ok, ok_bind, loadTree_write decodes]
  simp only [new, loaded, ok_bind, accepted]
  rfl

end RoundTrip

/-- Decimal numbers in the range of the type. -/
def readDecimal (text : String) : Option UInt32 :=
  let digits := text.toList
  if digits ≠ [] ∧ digits.all Char.isDigit then
    let n := Nat.ofDigitChars 10 digits 0
    if n < UInt32.size then some (UInt32.ofNat n) else none
  else none

def writeDecimal (n : UInt32) : String := Nat.repr n.toNat

theorem readDecimal_writeDecimal (n : UInt32) : readDecimal (writeDecimal n) = some n := by
  have digits : (writeDecimal n).toList = Nat.toDigits 10 n.toNat := Nat.toList_repr
  have decimal : (Nat.toDigits 10 n.toNat).all Char.isDigit = true :=
    List.all_eq_true.mpr fun c mem => Nat.isDigit_of_mem_toDigits (by omega) (by omega) mem
  rw [readDecimal, digits]
  simp [decimal, Nat.toDigits_ne_nil, n.toNat_lt]

/-- Two services with one camera each. -/
def singleCamera : AppConfig where
  apiConfig := ⟨"grpc", "0.0.0.0:50051"⟩
  coreConfig := ⟨⟩
  infrastructureConfig := ⟨UnorderedMap.emplace (UnorderedMap.emplace ∅
    "camera_service" ⟨[⟨0, "camera:50050"⟩]⟩) "video_service" ⟨[⟨0, "video:50060"⟩]⟩⟩
  logLevel := "info"
  name := "sensor-core"

theorem loads_written_singleCamera :
    new readDecimal "config.yaml" (some (.ok (writeConfig writeDecimal
      (fun client => client = "camera_service") singleCamera))) = .ok singleCamera :=
  loads_written readDecimal_writeDecimal rfl _ _

end ConfigManager

end SensorCore.Config
