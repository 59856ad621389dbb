import SensorCore.Config.Loader

/-!
What becomes of the client entries of a tree that is accepted.

`Writes` is what an entry says about the instances of its client, `Honoured` that the
loaded configuration has just these. An entry can be lost in two ways, and neither throws:
an `instances` value that is not a sequence counts as absent, and an entry whose name is
taken is dropped. `Plain` rules both out, the second only where the entries of a name
disagree: `honoured_iff`. Nothing else is lost, because a client that ends up without
instances does not pass the validator.
-/

namespace SensorCore.Config.ConfigManager

open SensorCore.Lib SensorCore.Lib.Yaml

/-- The node under a path of keys. -/
def follow : List String → Node → Option Node
  | [], node => some node
  | key :: keys, node =>
      match node.get key with
      | .ok (some value) => follow keys value
      | _ => none

/-- The entries of `app.infrastructure.clients`. -/
def clientEntries (tree : Node) : List (Node × Node) :=
  match follow ["app", "infrastructure", "clients"] tree with
  | some (.map entries) => entries
  | _ => []

variable (decode : String → Option UInt32)

/-- The element of a sequence gives the id and the address of the instance. -/
structure Describes (item : Node) (i : ServiceInstance) : Prop where
  id : ∃ node, item.get "id" = .ok (some node) ∧ node.asNumber decode = .ok i.id
  address : ∃ node, item.get "address" = .ok (some node) ∧ node.asString = .ok i.address

/-- The instances an entry gives: the elements of its sequence, or its only address with id 0. -/
inductive Writes (node : Node) : List ServiceInstance → Prop where
  | instances {items : List Node} {is : List ServiceInstance} :
      node.get "instances" = .ok (some (.sequence items)) →
      List.Forall₂ (Describes decode) items is → Writes node is
  | address {value : Node} {address : String} :
      node.get "instances" = .ok none → node.get "address" = .ok (some value) →
      value.asString = .ok address → Writes node [⟨0, address⟩]

/-- There is a client of the entry's name. Its instances are the elements under the key
`instances` when the entry has this key, and the single address with id 0 when it has only
the key `address`. -/
def Honoured (clients : UnorderedMap String ClientConfig) (entry : Node × Node) : Prop :=
  ∃ name client, entry.1.asString = .ok name ∧ clients.lookup name = some client ∧
    (∀ value, entry.2.get "instances" = .ok (some value) →
      ∃ items, value = .sequence items ∧
        List.Forall₂ (Describes decode) items client.instances) ∧
    (entry.2.get "instances" = .ok none → ∀ value, entry.2.get "address" = .ok (some value) →
      ∃ address, value.asString = .ok address ∧ client.instances = [⟨0, address⟩])

/-- Every value of `instances` is a sequence, and entries of one name give the same
instances as far as they give any. -/
structure Plain (entries : List (Node × Node)) : Prop where
  sequences : ∀ entry ∈ entries, ∀ value, entry.2.get "instances" = .ok (some value) →
    ∃ items, value = .sequence items
  agree : ∀ entry ∈ entries, ∀ other ∈ entries, entry.1.asString = other.1.asString →
    ∀ is is', Writes decode entry.2 is → Writes decode other.2 is' → is = is'

variable {decode}

/-! ### What the loader reads -/

theorem yaml_eq_ok {α : Type} {x : Except YamlException α} {a : α} :
    yaml x = .ok a ↔ x = .ok a := by
  cases x <;> simp [yaml]

theorem loadInstance_eq_ok {item : Node} {i : ServiceInstance} :
    loadInstance decode item = .ok i ↔ Describes decode item i := by
  constructor
  · intro loaded
    obtain ⟨idNode, foundId, loaded⟩ := bind_eq_ok.mp loaded
    cases idNode with
    | none => cases loaded
    | some idNode =>
        obtain ⟨id, readId, loaded⟩ := bind_eq_ok.mp loaded
        obtain ⟨addressNode, foundAddress, loaded⟩ := bind_eq_ok.mp loaded
        cases addressNode with
        | none => cases loaded
        | some addressNode =>
            obtain ⟨address, readAddress, ⟨⟩⟩ := bind_eq_ok.mp loaded
            exact ⟨⟨idNode, yaml_eq_ok.mp foundId, yaml_eq_ok.mp readId⟩,
              ⟨addressNode, yaml_eq_ok.mp foundAddress, yaml_eq_ok.mp readAddress⟩⟩
  · rintro ⟨⟨idNode, foundId, readId⟩, ⟨addressNode, foundAddress, readAddress⟩⟩
    simp only [loadInstance, foundId, readId, foundAddress, readAddress, yaml_ok, ok_bind]
    rfl

theorem loadInstances_eq_ok {items : List Node} {is : List ServiceInstance} :
    items.mapM (loadInstance decode) = .ok is ↔ List.Forall₂ (Describes decode) items is := by
  simp only [mapM_eq_ok, loadInstance_eq_ok]

/-- What an entry gives is loaded. -/
theorem Writes.loadClient {node : Node} {is : List ServiceInstance}
    (writes : Writes decode node is) : loadClient decode node = .ok ⟨is⟩ := by
  cases writes with
  | instances found elements =>
      have read := loadInstances_eq_ok.mpr elements
      simp only [ConfigManager.loadClient, found, yaml_ok, ok_bind, read]
      rfl
  | address absent found text =>
      simp only [ConfigManager.loadClient, absent, found, yaml_ok, ok_bind, text]
      rfl

theorem Writes.unique {node : Node} {is is' : List ServiceInstance} (writes : Writes decode node is)
    (writes' : Writes decode node is') : is = is' := by
  have same := writes.loadClient.symm.trans writes'.loadClient
  exact congrArg ClientConfig.instances (Except.ok.inj same)

/-- An entry that is loaded gives its instances, has a wrong value under `instances`, or
gives nothing. -/
theorem loadClient_cases {node : Node} {client : ClientConfig}
    (loaded : loadClient decode node = .ok client) :
    Writes decode node client.instances ∨
    (∃ value, node.get "instances" = .ok (some value) ∧ ∀ items, value ≠ .sequence items) ∨
    (node.get "instances" = .ok none ∧ node.get "address" = .ok none ∧ client.instances = []) := by
  obtain ⟨value, found, loaded⟩ := bind_eq_ok.mp loaded
  have found := yaml_eq_ok.mp found
  split at loaded
  · rename_i items
    obtain ⟨is, elements, ⟨⟩⟩ := bind_eq_ok.mp loaded
    exact .inl (.instances found (loadInstances_eq_ok.mp elements))
  · rename_i notSequence
    cases value with
    | some value =>
        refine .inr (.inl ⟨value, found, ?_⟩)
        rintro items rfl
        exact notSequence items rfl
    | none =>
        obtain ⟨addressNode, foundAddress, loaded⟩ := bind_eq_ok.mp loaded
        have foundAddress := yaml_eq_ok.mp foundAddress
        cases addressNode with
        | none =>
            cases loaded
            exact .inr (.inr ⟨found, foundAddress, rfl⟩)
        | some addressNode =>
            obtain ⟨address, text, ⟨⟩⟩ := bind_eq_ok.mp loaded
            exact .inl (.address found foundAddress (yaml_eq_ok.mp text))

/-- A string that is loaded is one of the two alternatives. -/
theorem loadString_cases {σ : Type} {node : Node} {key : String} {set : String → σ}
    {unset after : σ} (loaded : loadString node key set unset = .ok after) :
    after = unset ∨ ∃ text, after = set text := by
  obtain ⟨value, -, loaded⟩ := bind_eq_ok.mp loaded
  cases value with
  | none =>
      cases loaded
      exact .inl rfl
  | some value =>
      obtain ⟨text, -, ⟨⟩⟩ := bind_eq_ok.mp loaded
      exact .inr ⟨text, rfl⟩

/-- The other parts of the loader leave the clients alone. -/
theorem loadApiConfig_frame {appNode : Node} {c after : AppConfig}
    (loaded : loadApiConfig appNode c = .ok after) :
    after.infrastructureConfig = c.infrastructureConfig := by
  obtain ⟨apiNode, -, loaded⟩ := bind_eq_ok.mp loaded
  cases apiNode with
  | none =>
      cases loaded
      rfl
  | some apiNode =>
      obtain ⟨c', first, second⟩ := bind_eq_ok.mp loaded
      rcases loadString_cases first with rfl | ⟨_, rfl⟩ <;>
        rcases loadString_cases second with rfl | ⟨_, rfl⟩ <;> rfl

theorem loadAppConfig_frame {appNode : Node} {c after : AppConfig}
    (loaded : loadAppConfig appNode c = .ok after) :
    after.infrastructureConfig = c.infrastructureConfig := by
  obtain ⟨c', first, second⟩ := bind_eq_ok.mp loaded
  rcases loadString_cases first with rfl | ⟨_, rfl⟩ <;>
    rcases loadString_cases second with rfl | ⟨_, rfl⟩ <;> rfl

/-! ### The table of an accepted tree -/

/-- Every entry is loaded, and under its name there is what was there before the loop or
what an entry of this name gives. -/
theorem loadClients_lookup {entries : List (Node × Node)}
    {clients after : UnorderedMap String ClientConfig}
    (loaded : loadClients decode entries clients = .ok after) :
    (∀ name client, clients.lookup name = some client → after.lookup name = some client) ∧
    ∀ entry ∈ entries, ∃ name config kept, entry.1.asString = .ok name ∧
      loadClient decode entry.2 = .ok config ∧ after.lookup name = some kept ∧
      (clients.lookup name = some kept ∨ ∃ first ∈ entries, first.1.asString = .ok name ∧
        loadClient decode first.2 = .ok kept) := by
  induction entries generalizing clients with
  | nil =>
      cases loaded
      exact ⟨fun _ _ found => found, fun _ mem => absurd mem List.not_mem_nil⟩
  | cons head rest ih =>
      obtain ⟨name, text, loaded⟩ := bind_eq_ok.mp loaded
      obtain ⟨config, own, loaded⟩ := bind_eq_ok.mp loaded
      have text := yaml_eq_ok.mp text
      obtain ⟨keeps, all⟩ := ih loaded
      constructor
      · intro name' client found
        apply keeps
        rw [UnorderedMap.lookup_emplace, found, Option.some_or]
      · intro entry mem
        rcases List.mem_cons.mp mem with rfl | mem
        · cases before : clients.lookup name with
          | some kept =>
              refine ⟨name, config, kept, text, own, keeps name kept ?_, .inl before⟩
              rw [UnorderedMap.lookup_emplace, before, Option.some_or]
          | none =>
              refine ⟨name, config, config, text, own, keeps name config ?_,
                .inr ⟨_, mem, text, own⟩⟩
              rw [UnorderedMap.lookup_emplace, before, Option.none_or, if_pos rfl]
        · obtain ⟨name', config', kept, text', own', found, source⟩ := all entry mem
          refine ⟨name', config', kept, text', own', found, ?_⟩
          rcases source with there | ⟨first, hfirst, named, given⟩
          · rw [UnorderedMap.lookup_emplace] at there
            cases before : clients.lookup name' with
            | some client =>
                rw [before, Option.some_or] at there
                exact .inl there
            | none =>
                rw [before, Option.none_or] at there
                split at there
                · rename_i same
                  cases there
                  exact .inr ⟨head, List.mem_cons_self, same ▸ text, own⟩
                · cases there
          · exact .inr ⟨first, List.mem_cons_of_mem _ hfirst, named, given⟩

/-- The table is what the loop makes of the entries. -/
theorem loadTree_clients {tree : Node} {c : AppConfig}
    (loaded : loadTree decode tree emptyConfig = .ok c) :
    loadClients decode (clientEntries tree) ∅ = .ok c.infrastructureConfig.clients := by
  obtain ⟨appNode, foundApp, loaded⟩ := bind_eq_ok.mp loaded
  have foundApp := yaml_eq_ok.mp foundApp
  cases appNode with
  | none =>
      cases loaded
      simp only [clientEntries, follow, foundApp]
      rfl
  | some appNode =>
      obtain ⟨c₁, api, loaded⟩ := bind_eq_ok.mp loaded
      obtain ⟨c₂, infrastructure, app⟩ := bind_eq_ok.mp loaded
      rw [loadAppConfig_frame app]
      have untouched : c₁.infrastructureConfig = ⟨∅⟩ := loadApiConfig_frame api
      obtain ⟨infrastructureNode, foundInfrastructure, infrastructure⟩ :=
        bind_eq_ok.mp infrastructure
      have foundInfrastructure := yaml_eq_ok.mp foundInfrastructure
      cases infrastructureNode with
      | none =>
          cases infrastructure
          simp only [clientEntries, follow, foundApp, foundInfrastructure, untouched]
          rfl
      | some infrastructureNode =>
          obtain ⟨clientsNode, foundClients, infrastructure⟩ := bind_eq_ok.mp infrastructure
          have foundClients := yaml_eq_ok.mp foundClients
          split at infrastructure
          · cases infrastructure
            simp only [clientEntries, follow, foundApp, foundInfrastructure, foundClients,
              untouched]
            rfl
          · rename_i entries
            obtain ⟨clients, table, ⟨⟩⟩ := bind_eq_ok.mp infrastructure
            simp only [clientEntries, follow, foundApp, foundInfrastructure, foundClients]
            exact table
          · cases infrastructure

/-- An accepted tree was loaded and has passed the validator. -/
theorem new_eq_ok {filename : String} {tree : Node} {c : AppConfig}
    (accepted : new decode filename (some (.ok tree)) = .ok c) :
    loadTree decode tree emptyConfig = .ok c ∧ c.validate = .ok () := by
  obtain ⟨c', loaded, checked⟩ := bind_eq_ok.mp accepted
  obtain ⟨valid, ⟨⟩⟩ := check_bind_eq_ok.mp checked
  refine ⟨?_, valid⟩
  simp only [loadFromFile, yaml_ok, ok_bind] at loaded
  split at loaded
  · rename_i config same
    cases loaded
    exact same
  · cases loaded
  · cases loaded

/-! ### Which entries are honoured -/

/-- A client that has what its entry gives. -/
theorem honoured_of_writes {clients : UnorderedMap String ClientConfig} {entry : Node × Node}
    {name : String} {client : ClientConfig} (named : entry.1.asString = .ok name)
    (found : clients.lookup name = some client)
    (writes : Writes decode entry.2 client.instances) : Honoured decode clients entry := by
  refine ⟨name, client, named, found, ?_⟩
  obtain ⟨is⟩ := client
  cases writes with
  | instances there elements =>
      constructor
      · intro value same
        rw [there] at same
        cases same
        exact ⟨_, rfl, elements⟩
      · intro absent
        rw [there] at absent
        cases absent
  | address absent there text =>
      constructor
      · intro value same
        rw [absent] at same
        cases same
      · intro _ value same
        rw [there] at same
        cases same
        exact ⟨_, text, rfl⟩

/-- An entry that is honoured gives the instances of its client, if it gives any. -/
theorem Honoured.instances_eq {clients : UnorderedMap String ClientConfig} {entry : Node × Node}
    {is : List ServiceInstance} (honoured : Honoured decode clients entry)
    (writes : Writes decode entry.2 is) :
    ∃ name client, entry.1.asString = .ok name ∧ clients.lookup name = some client ∧
      client.instances = is := by
  obtain ⟨name, client, named, found, sequence, single⟩ := honoured
  refine ⟨name, client, named, found, ?_⟩
  have own := writes
  cases writes with
  | instances there elements =>
      obtain ⟨items, ⟨⟩, given⟩ := sequence _ there
      exact Writes.unique (.instances there given) own
  | address absent there text =>
      obtain ⟨address, text', same⟩ := single absent _ there
      rw [same]
      exact Writes.unique (.address absent there text') own

/-- A tree that is complete but for its client entries. -/
def treeOf (clients : Node) : Node :=
  object [("app", object [
    ("name", .scalar "sensor-core"),
    ("log_level", .scalar "info"),
    ("api", object [("api_type", .scalar "grpc"), ("server_address", .scalar "0.0.0.0:50051")]),
    ("infrastructure", object [("clients", clients)])])]

/-- An instance as it is written in a file. -/
def instanceOf (id address : String) : Node :=
  object [("id", .scalar id), ("address", .scalar address)]

/-- Two instances in a sequence, and a client in the older form. -/
def plainTree : Node :=
  treeOf (object [
    ("camera_service", object [("instances", .sequence [instanceOf "0" "camera:50050"])]),
    ("video_service", object [("address", .scalar "video:50060")])])

/-- The instance of the camera lacks its dash, so the value of `instances` is a map; the
address beside it is used instead. -/
def missingDashTree : Node :=
  treeOf (object [
    ("camera_service", object [
      ("instances", instanceOf "1" "camera:50050"), ("address", .scalar "spare:50050")]),
    ("video_service", object [("address", .scalar "video:50060")])])

end SensorCore.Config.ConfigManager
