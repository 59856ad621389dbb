import SensorCore.Config.Entries
import SensorCore.Lib.Reordered

/-!
Which files are accepted, and as what.

`Accepted` says it without a loader: the four texts stand under their paths, the clients
are the entries of the table with the first entry of a name kept, and the whole is valid.
`accepted_iff` says that the constructor of `ConfigManager` accepts a file as a
configuration exactly then. So nothing else in a file matters, and neither does the order
in which the entries of a map are written, as long as no key is repeated:
`order_irrelevant`.
-/

namespace SensorCore.Config.ConfigManager

open SensorCore.Lib SensorCore.Lib.Yaml

/-- The text stands under the path. -/
def TextAt (keys : List String) (node : Node) (text : String) : Prop :=
  ∃ value, follow keys node = some value ∧ value.asString = .ok text

/-- There is no sequence under `instances`; another value counts as none. -/
def Sequenceless (node : Node) : Prop :=
  ∃ value, node.get "instances" = .ok value ∧ ∀ items, value ≠ some (.sequence items)

variable (decode : String → Option UInt32)

/-- The instances that are read from the entry of a client. -/
inductive Gives (node : Node) : List ServiceInstance → Prop where
  | instances {items : List Node} {is : List ServiceInstance} :
      node.get "instances" = .ok (some (.sequence items)) →
      List.Forall₂ (Describes decode) items is → Gives node is
  | address {address : String} :
      Sequenceless node → TextAt ["address"] node address → Gives node [⟨0, address⟩]
  | nothing : Sequenceless node → node.get "address" = .ok none → Gives node []

/-- The name and the instances of one entry. -/
def EntryGives (entry : Node × Node) (client : Σ _ : String, ClientConfig) : Prop :=
  entry.1.asString = .ok client.1 ∧ Gives decode entry.2 client.2.instances

/-- The client entries under `app`, in order. -/
inductive ClientTable (appNode : Node) : List (Σ _ : String, ClientConfig) → Prop where
  | none : appNode.get "infrastructure" = .ok none → ClientTable appNode []
  | empty {node : Node} : appNode.get "infrastructure" = .ok (some node) →
      node.get "clients" = .ok none → ClientTable appNode []
  | clients {entries : List (Node × Node)} {table : List (Σ _ : String, ClientConfig)} :
      follow ["infrastructure", "clients"] appNode = some (.map entries) →
      List.Forall₂ (EntryGives decode) entries table → ClientTable appNode table

/-- What is under `app` describes the configuration, and the configuration is valid. -/
structure Accepted (appNode : Node) (c : AppConfig) : Prop where
  api : TextAt ["api", "api_type"] appNode c.apiConfig.api
  serverAddress : TextAt ["api", "server_address"] appNode c.apiConfig.serverAddress
  logLevel : TextAt ["log_level"] appNode c.logLevel
  name : TextAt ["name"] appNode c.name
  clients : ∃ table, ClientTable decode appNode table ∧
    c.infrastructureConfig.clients = UnorderedMap.emplaceAll ∅ table
  valid : c.Valid

/-- The instance stands in the file, in an entry with the name of its service. -/
def Written (appNode : Node) (service : String) (i : ServiceInstance) : Prop :=
  ∃ entries, follow ["infrastructure", "clients"] appNode = some (.map entries) ∧
    ∃ entry ∈ entries, entry.1.asString = .ok service ∧ ∃ is, Gives decode entry.2 is ∧ i ∈ is

variable {decode}

/-! ### Paths -/

theorem follow_cons {key : String} {keys : List String} {node value : Node} :
    follow (key :: keys) node = some value ↔
      ∃ next, node.get key = .ok (some next) ∧ follow keys next = some value := by
  rw [follow]
  split
  · rename_i next found
    constructor
    · intro there
      exact ⟨next, found, there⟩
    · rintro ⟨_, found', there⟩
      rw [found] at found'
      cases found'
      exact there
  · rename_i missing
    constructor
    · rintro ⟨⟩
    · rintro ⟨next, found, -⟩
      exact absurd found (missing next)

theorem textAt_cons {key : String} {keys : List String} {node : Node} {text : String} :
    TextAt (key :: keys) node text ↔
      ∃ next, node.get key = .ok (some next) ∧ TextAt keys next text := by
  constructor
  · rintro ⟨value, there, reads⟩
    obtain ⟨next, found, rest⟩ := follow_cons.mp there
    exact ⟨next, found, value, rest, reads⟩
  · rintro ⟨next, found, value, rest, reads⟩
    exact ⟨value, follow_cons.mpr ⟨next, found, rest⟩, reads⟩

theorem textAt_key {key : String} {node : Node} {text : String} :
    TextAt [key] node text ↔
      ∃ value, node.get key = .ok (some value) ∧ value.asString = .ok text := by
  rw [textAt_cons]
  constructor
  · rintro ⟨next, found, value, there, reads⟩
    cases there
    exact ⟨next, found, reads⟩
  · rintro ⟨value, found, reads⟩
    exact ⟨value, found, value, rfl, reads⟩

/-! ### Fields -/

/-- A field that is absent is left as it was; one that is there is read. -/
theorem loadString_eq_ok {σ : Type} {node : Node} {key : String} {set : String → σ}
    {unset after : σ} :
    loadString node key set unset = .ok after ↔
      (node.get key = .ok none ∧ after = unset) ∨
        ∃ text, TextAt [key] node text ∧ after = set text := by
  simp only [textAt_key]
  constructor
  · intro loaded
    obtain ⟨value, found, loaded⟩ := bind_eq_ok.mp loaded
    have found := yaml_eq_ok.mp found
    cases value with
    | none =>
        cases loaded
        exact .inl ⟨found, rfl⟩
    | some value =>
        obtain ⟨text, reads, ⟨⟩⟩ := bind_eq_ok.mp loaded
        exact .inr ⟨text, ⟨value, found, yaml_eq_ok.mp reads⟩, rfl⟩
  · rintro (⟨absent, rfl⟩ | ⟨text, ⟨value, found, reads⟩, rfl⟩)
    · simp only [loadString, absent, yaml_ok, ok_bind]
      rfl
    · simp only [loadString, found, reads, yaml_ok, ok_bind]
      rfl

theorem loadString_textAt {σ : Type} {node : Node} {key text : String}
    (there : TextAt [key] node text) (set : String → σ) (unset : σ) :
    loadString node key set unset = .ok (set text) :=
  loadString_eq_ok.mpr (.inr ⟨text, there, rfl⟩)

theorem loadApiConfig_keeps {appNode : Node} {c after : AppConfig}
    (loaded : loadApiConfig appNode c = .ok after) :
    after = { c with apiConfig := after.apiConfig } := by
  obtain ⟨apiNode, -, loaded⟩ := bind_eq_ok.mp loaded
  cases apiNode with
  | none =>
      cases loaded
      rfl
  | some apiNode =>
      obtain ⟨c', first, second⟩ := bind_eq_ok.mp loaded
      rcases loadString_cases first with rfl | ⟨_, rfl⟩ <;>
        rcases loadString_cases second with rfl | ⟨_, rfl⟩ <;> rfl

theorem loadAppConfig_keeps {appNode : Node} {c after : AppConfig}
    (loaded : loadAppConfig appNode c = .ok after) :
    after = { c with logLevel := after.logLevel, name := after.name } := by
  obtain ⟨c', first, second⟩ := bind_eq_ok.mp loaded
  rcases loadString_cases first with rfl | ⟨_, rfl⟩ <;>
    rcases loadString_cases second with rfl | ⟨_, rfl⟩ <;> rfl

/-- The api section of a configuration that has both texts. -/
theorem loadApiConfig_eq_ok (appNode : Node) (c after : AppConfig)
    (before : c.apiConfig = ⟨"", ""⟩) (api : after.apiConfig.api ≠ "") (address : after.apiConfig.serverAddress ≠ "") :
    loadApiConfig appNode c = .ok after ↔
      TextAt ["api", "api_type"] appNode after.apiConfig.api ∧
        TextAt ["api", "server_address"] appNode after.apiConfig.serverAddress ∧
        after = { c with apiConfig := after.apiConfig } := by
  constructor
  · intro loaded
    obtain ⟨apiNode, found, loaded⟩ := bind_eq_ok.mp loaded
    have found := yaml_eq_ok.mp found
    cases apiNode with
    | none =>
        cases loaded
        rw [before] at api
        exact absurd rfl api
    | some apiNode =>
        obtain ⟨c', first, second⟩ := bind_eq_ok.mp loaded
        rcases loadString_eq_ok.mp first with ⟨-, rfl⟩ | ⟨text, there, rfl⟩ <;>
          rcases loadString_eq_ok.mp second with ⟨-, rfl⟩ | ⟨text', there', rfl⟩
        · rw [before] at api
          exact absurd rfl api
        · simp [before] at api
        · simp [before] at address
        · exact ⟨textAt_cons.mpr ⟨apiNode, found, there⟩, textAt_cons.mpr ⟨apiNode, found, there'⟩,
            rfl⟩
  · rintro ⟨first, second, same⟩
    obtain ⟨apiNode, found, first⟩ := textAt_cons.mp first
    obtain ⟨apiNode', found', second⟩ := textAt_cons.mp second
    rw [found] at found'
    cases found'
    rw [same]
    simp only [loadApiConfig, found, yaml_ok, ok_bind, loadString_textAt first,
      loadString_textAt second]

theorem loadAppConfig_eq_ok (appNode : Node) (c after : AppConfig) (level : c.logLevel = "")
    (name : c.name = "") (level' : after.logLevel ≠ "") (name' : after.name ≠ "") :
    loadAppConfig appNode c = .ok after ↔
      TextAt ["log_level"] appNode after.logLevel ∧ TextAt ["name"] appNode after.name ∧
        after = { c with logLevel := after.logLevel, name := after.name } := by
  constructor
  · intro loaded
    obtain ⟨c', first, second⟩ := bind_eq_ok.mp loaded
    rcases loadString_eq_ok.mp first with ⟨-, rfl⟩ | ⟨text, there, rfl⟩ <;>
      rcases loadString_eq_ok.mp second with ⟨-, rfl⟩ | ⟨text', there', rfl⟩
    · exact absurd level level'
    · exact absurd level level'
    · exact absurd name name'
    · exact ⟨there, there', rfl⟩
  · rintro ⟨first, second, same⟩
    rw [same]
    simp only [loadAppConfig, loadString_textAt first, loadString_textAt second, ok_bind]

/-! ### Clients -/

theorem loadClient_eq_ok {node : Node} {client : ClientConfig} :
    loadClient decode node = .ok client ↔ Gives decode node client.instances := by
  constructor
  · intro loaded
    obtain ⟨value, found, loaded⟩ := bind_eq_ok.mp loaded
    have found := yaml_eq_ok.mp found
    split at loaded
    · obtain ⟨is, elements, ⟨⟩⟩ := bind_eq_ok.mp loaded
      exact .instances found (loadInstances_eq_ok.mp elements)
    · rename_i notSequence
      have sequenceless : Sequenceless node := ⟨value, found, notSequence⟩
      obtain ⟨addressNode, foundAddress, loaded⟩ := bind_eq_ok.mp loaded
      have foundAddress := yaml_eq_ok.mp foundAddress
      cases addressNode with
      | none =>
          cases loaded
          exact .nothing sequenceless foundAddress
      | some addressNode =>
          obtain ⟨address, text, ⟨⟩⟩ := bind_eq_ok.mp loaded
          have there := textAt_key.mpr ⟨addressNode, foundAddress, yaml_eq_ok.mp text⟩
          exact .address sequenceless there
  · obtain ⟨is⟩ := client
    intro gives
    cases gives with
    | instances found elements =>
        simp only [loadClient, found, loadInstances_eq_ok.mpr elements, yaml_ok, ok_bind]
        rfl
    | address sequenceless there =>
        obtain ⟨value, found, notSequence⟩ := sequenceless
        obtain ⟨addressNode, foundAddress, reads⟩ := textAt_key.mp there
        rw [loadClient, found, yaml_ok, ok_bind]
        split
        · exact absurd rfl (notSequence _)
        · simp only [foundAddress, reads, yaml_ok, ok_bind]
          rfl
    | nothing sequenceless absent =>
        obtain ⟨value, found, notSequence⟩ := sequenceless
        rw [loadClient, found, yaml_ok, ok_bind]
        split
        · exact absurd rfl (notSequence _)
        · simp only [absent, yaml_ok, ok_bind]
          rfl

/-- The loop reads every entry and keeps the first of a name. -/
theorem loadClients_eq_ok {entries : List (Node × Node)}
    {clients after : UnorderedMap String ClientConfig} :
    loadClients decode entries clients = .ok after ↔
      ∃ table, List.Forall₂ (EntryGives decode) entries table ∧
        after = clients.emplaceAll table := by
  induction entries generalizing clients with
  | nil =>
      constructor
      · rintro ⟨⟩
        exact ⟨[], .nil, rfl⟩
      · rintro ⟨table, gives, rfl⟩
        cases gives
        rfl
  | cons head rest ih =>
      constructor
      · intro loaded
        obtain ⟨name, text, loaded⟩ := bind_eq_ok.mp loaded
        obtain ⟨config, own, loaded⟩ := bind_eq_ok.mp loaded
        obtain ⟨table, gives, rfl⟩ := ih.mp loaded
        exact ⟨⟨name, config⟩ :: table,
          .cons ⟨yaml_eq_ok.mp text, loadClient_eq_ok.mp own⟩ gives, rfl⟩
      · rintro ⟨table, gives, rfl⟩
        cases gives with
        | @cons _ client _ table own gives =>
            obtain ⟨text, instances⟩ := own
            simp only [loadClients, text, loadClient_eq_ok.mpr instances, yaml_ok, ok_bind]
            exact ih.mpr ⟨table, gives, rfl⟩

theorem loadInfrastructureConfig_eq_ok (appNode : Node) (c : AppConfig) {after : AppConfig}
    (before : c.infrastructureConfig = ⟨∅⟩) :
    loadInfrastructureConfig decode appNode c = .ok after ↔
      ∃ table, ClientTable decode appNode table ∧
        after = { c with infrastructureConfig := ⟨UnorderedMap.emplaceAll ∅ table⟩ } := by
  have unchanged : { c with infrastructureConfig := ⟨UnorderedMap.emplaceAll ∅ []⟩ } = c := by
    rw [UnorderedMap.emplaceAll_nil, ← before]
  constructor
  · intro loaded
    obtain ⟨infrastructureNode, found, loaded⟩ := bind_eq_ok.mp loaded
    have found := yaml_eq_ok.mp found
    cases infrastructureNode with
    | none =>
        cases loaded
        exact ⟨[], .none found, unchanged.symm⟩
    | some infrastructureNode =>
        obtain ⟨clientsNode, foundClients, loaded⟩ := bind_eq_ok.mp loaded
        have foundClients := yaml_eq_ok.mp foundClients
        split at loaded
        · cases loaded
          exact ⟨[], .empty found foundClients, unchanged.symm⟩
        · obtain ⟨clients, loop, ⟨⟩⟩ := bind_eq_ok.mp loaded
          obtain ⟨table, gives, rfl⟩ := loadClients_eq_ok.mp loop
          refine ⟨table, .clients ?_ gives, rfl⟩
          exact follow_cons.mpr ⟨_, found, follow_cons.mpr ⟨_, foundClients, rfl⟩⟩
        · cases loaded
  · rintro ⟨table, written, rfl⟩
    cases written with
    | none absent =>
        simp only [loadInfrastructureConfig, absent, yaml_ok, ok_bind, unchanged]
        rfl
    | empty found absent =>
        simp only [loadInfrastructureConfig, found, absent, yaml_ok, ok_bind, unchanged]
        rfl
    | clients path gives =>
        obtain ⟨infrastructureNode, found, path⟩ := follow_cons.mp path
        obtain ⟨clientsNode, foundClients, ⟨⟩⟩ := follow_cons.mp path
        have loop : loadClients decode _ ∅ = .ok (UnorderedMap.emplaceAll ∅ _) :=
          loadClients_eq_ok.mpr ⟨_, gives, rfl⟩
        simp only [loadInfrastructureConfig, found, foundClients, yaml_ok, ok_bind, loop]
        rfl

/-! ### Files -/

/-- A valid configuration is loaded exactly from the trees that describe it. -/
theorem loadTree_eq_ok {tree : Node} {c : AppConfig} (valid : c.Valid) :
    loadTree decode tree emptyConfig = .ok c ↔
      ∃ appNode, tree.get "app" = .ok (some appNode) ∧ Accepted decode appNode c := by
  have api : c.apiConfig.api ≠ "" := by
    intro empty
    have known := valid.api
    rw [empty] at known
    exact absurd known (by decide)
  have level : c.logLevel ≠ "" := by
    intro empty
    have known := valid.logLevel
    rw [empty] at known
    exact absurd known (by decide)
  have address := valid.serverAddress.1
  constructor
  · intro loaded
    obtain ⟨appNode, found, loaded⟩ := bind_eq_ok.mp loaded
    have found := yaml_eq_ok.mp found
    cases appNode with
    | none =>
        cases loaded
        exact absurd rfl api
    | some appNode =>
        obtain ⟨c₁, first, loaded⟩ := bind_eq_ok.mp loaded
        obtain ⟨c₂, second, third⟩ := bind_eq_ok.mp loaded
        have kept := loadApiConfig_keeps first
        have untouched : c₁.infrastructureConfig = ⟨∅⟩ := loadApiConfig_frame first
        obtain ⟨table, written, rfl⟩ :=
          (loadInfrastructureConfig_eq_ok appNode c₁ untouched).mp second
        have kept' := loadAppConfig_keeps third
        have section_ : c.apiConfig = c₁.apiConfig := by rw [kept']
        have level' : c₁.logLevel = "" := by rw [kept]; rfl
        have name' : c₁.name = "" := by rw [kept]; rfl
        obtain ⟨hlevel, hname, -⟩ := (loadAppConfig_eq_ok appNode
          { c₁ with infrastructureConfig := ⟨UnorderedMap.emplaceAll ∅ table⟩ }
          c level' name' level valid.name).mp third
        obtain ⟨hapi, haddress, -⟩ := (loadApiConfig_eq_ok appNode emptyConfig c₁ rfl
          (section_ ▸ api) (section_ ▸ address)).mp first
        refine ⟨appNode, found, section_ ▸ hapi, section_ ▸ haddress, hlevel, hname,
          ⟨table, written, ?_⟩, valid⟩
        rw [kept']
  · rintro ⟨appNode, found, accepted⟩
    obtain ⟨table, written, clients⟩ := accepted.clients
    have first := (loadApiConfig_eq_ok appNode emptyConfig
      { emptyConfig with apiConfig := c.apiConfig } rfl api address).mpr
        ⟨accepted.api, accepted.serverAddress, rfl⟩
    have second := (loadInfrastructureConfig_eq_ok appNode
      { emptyConfig with apiConfig := c.apiConfig } rfl).mpr ⟨table, written, rfl⟩
    have third := (loadAppConfig_eq_ok appNode
      { emptyConfig with
        apiConfig := c.apiConfig, infrastructureConfig := ⟨UnorderedMap.emplaceAll ∅ table⟩ }
      c rfl rfl level valid.name).mpr ⟨accepted.logLevel, accepted.name, by rw [← clients]⟩
    simp only [loadTree, found, yaml_ok, ok_bind, first, second, third]

/-- What the constructor accepts is described by the file, and valid. -/
theorem accepted_of_new {filename : String} {file : File} {c : AppConfig}
    (created : new decode filename file = .ok c) :
    ∃ tree appNode, file = some (.ok tree) ∧ tree.get "app" = .ok (some appNode) ∧
      Accepted decode appNode c := by
  match file with
  | none => cases created
  | some (.error e) => cases created
  | some (.ok tree) =>
      obtain ⟨loaded, valid⟩ := new_eq_ok created
      obtain ⟨appNode, found, accepted⟩ :=
        (loadTree_eq_ok (AppConfig.validate_iff.mp valid)).mp loaded
      exact ⟨tree, appNode, rfl, found, accepted⟩

/-- What a file describes is accepted when it is valid. -/
theorem new_of_accepted (filename : String) {tree appNode : Node} {c : AppConfig}
    (found : tree.get "app" = .ok (some appNode)) (accepted : Accepted decode appNode c) :
    new decode filename (some (.ok tree)) = .ok c := by
  have loaded := (loadTree_eq_ok accepted.valid).mpr ⟨appNode, found, accepted⟩
  have valid := AppConfig.validate_iff.mpr accepted.valid
  simp only [new, loadFromFile, yaml_ok, ok_bind, loaded, valid]
  rfl

/-- The constructor accepts a file as a configuration exactly when there is a tree whose
`app` describes it and it is valid. -/
theorem accepted_iff {filename : String} {file : File} {c : AppConfig} :
    new decode filename file = .ok c ↔
      ∃ tree appNode, file = some (.ok tree) ∧ tree.get "app" = .ok (some appNode) ∧
        Accepted decode appNode c := by
  constructor
  · exact accepted_of_new
  · rintro ⟨tree, appNode, rfl, found, accepted⟩
    exact new_of_accepted filename found accepted

/-- The instances of an accepted configuration are the file's. -/
theorem Accepted.written {appNode : Node} {c : AppConfig} (accepted : Accepted decode appNode c)
    {service : String} {client : ClientConfig} {i : ServiceInstance}
    (found : c.infrastructureConfig.clients.lookup service = some client)
    (mem : i ∈ client.instances) : Written decode appNode service i := by
  obtain ⟨table, written, clients⟩ := accepted.clients
  rw [clients, UnorderedMap.lookup_emplaceAll] at found
  have there : (⟨service, client⟩ : Σ _ : String, ClientConfig) ∈ table :=
    List.of_mem_dlookup (Option.mem_def.mpr found)
  cases written with
  | none _ => cases there
  | empty _ _ => cases there
  | clients path gives =>
      obtain ⟨entry, mem', named, own⟩ := forall₂_mem_right gives there
      exact ⟨_, path, entry, mem', named, client.instances, own, mem⟩

/-! ### Order -/

section Order

variable {node node' : Node}

theorem TextAt.reordered {keys : List String} {text : String} (same : node.Reordered node')
    (there : TextAt keys node text) : TextAt keys node' text := by
  induction keys generalizing node node' with
  | nil =>
      obtain ⟨value, at_, reads⟩ := there
      cases at_
      exact ⟨node', rfl, same.asString ▸ reads⟩
  | cons key keys ih =>
      obtain ⟨next, found, there⟩ := textAt_cons.mp there
      obtain ⟨next', found', same⟩ := same.get_some found
      exact textAt_cons.mpr ⟨next', found', ih same there⟩

theorem Describes.reordered {i : ServiceInstance} (same : node.Reordered node')
    (describes : Describes decode node i) : Describes decode node' i := by
  obtain ⟨⟨idNode, foundId, readsId⟩, ⟨addressNode, foundAddress, readsAddress⟩⟩ := describes
  obtain ⟨idNode', foundId', sameId⟩ := same.get_some foundId
  obtain ⟨addressNode', foundAddress', sameAddress⟩ := same.get_some foundAddress
  exact ⟨⟨idNode', foundId', sameId.asNumber decode ▸ readsId⟩,
    ⟨addressNode', foundAddress', sameAddress.asString ▸ readsAddress⟩⟩

theorem Sequenceless.reordered (same : node.Reordered node') (sequenceless : Sequenceless node) :
    Sequenceless node' := by
  obtain ⟨value, found, notSequence⟩ := sequenceless
  cases value with
  | none => exact ⟨none, same.get_none found, by simp⟩
  | some value =>
      obtain ⟨value', found', related⟩ := same.get_some found
      refine ⟨some value', found', ?_⟩
      rintro items ⟨⟩
      cases related with
      | sequence _ => exact notSequence _ rfl

theorem Gives.reordered {is : List ServiceInstance} (same : node.Reordered node')
    (gives : Gives decode node is) : Gives decode node' is := by
  cases gives with
  | @instances items _ found elements =>
      obtain ⟨value', found', related⟩ := same.get_some found
      cases related with
      | sequence related =>
          exact .instances found'
            (forall₂_carry (fun _ _ _ same describes => describes.reordered same) related elements)
  | address sequenceless there =>
      exact .address (sequenceless.reordered same) (there.reordered same)
  | nothing sequenceless absent =>
      exact .nothing (sequenceless.reordered same) (same.get_none absent)

theorem EntryGives.reordered {entry entry' : Node × Node} {client : Σ _ : String, ClientConfig}
    (same : Node.SameEntry entry entry') (gives : EntryGives decode entry client) :
    EntryGives decode entry' client :=
  ⟨same.1 ▸ gives.1, gives.2.reordered same.2⟩

/-- Keys with different texts give clients with different names. -/
theorem nodupKeys_of_distinct {entries : List (Node × Node)}
    {table : List (Σ _ : String, ClientConfig)} (distinct : Node.Distinct entries)
    (gives : List.Forall₂ (EntryGives decode) entries table) : table.NodupKeys := by
  induction gives with
  | nil => exact List.nodupKeys_nil
  | @cons entry client entries table own gives ih =>
      obtain ⟨differ, distinct⟩ := List.pairwise_cons.mp distinct
      refine List.nodupKeys_cons.mpr ⟨?_, ih distinct⟩
      intro repeated
      obtain ⟨client', mem, same⟩ := List.mem_map.mp repeated
      obtain ⟨entry', mem', named', -⟩ := forall₂_mem_right gives mem
      exact differ entry' mem' client.1 own.1 (same ▸ named')

/-- The table of a reordered tree has the same clients under the same names. -/
theorem ClientTable.reordered {table : List (Σ _ : String, ClientConfig)}
    (same : node.Reordered node') (written : ClientTable decode node table) :
    ∃ table', ClientTable decode node' table' ∧
      ∀ name, table'.dlookup name = table.dlookup name := by
  cases written with
  | none absent => exact ⟨[], .none (same.get_none absent), fun _ => rfl⟩
  | empty found absent =>
      obtain ⟨value', found', related⟩ := same.get_some found
      exact ⟨[], .empty found' (related.get_none absent), fun _ => rfl⟩
  | clients path gives =>
      obtain ⟨infrastructureNode, found, path⟩ := follow_cons.mp path
      obtain ⟨clientsNode, foundClients, path⟩ := follow_cons.mp path
      cases path
      obtain ⟨infrastructureNode', found', same⟩ := same.get_some found
      obtain ⟨clientsNode', foundClients', same⟩ := same.get_some foundClients
      cases same with
      | @map _ moved entries' distinct keys values perm =>
          have carry : ∀ entry entry' client, Node.SameEntry entry entry' →
              EntryGives decode entry client → EntryGives decode entry' client :=
            fun _ _ _ same given => given.reordered same
          have there := forall₂_carry carry (Node.forall₂_sameEntry.mpr ⟨keys, values⟩) gives
          obtain ⟨table', gives', perm'⟩ := List.perm_comp_forall₂ perm.symm there
          have path' : follow ["infrastructure", "clients"] node' = some (.map entries') :=
            follow_cons.mpr ⟨_, found', follow_cons.mpr ⟨_, foundClients', rfl⟩⟩
          have nodup := nodupKeys_of_distinct ((distinct.moved keys).perm perm) gives'
          exact ⟨table', .clients path' gives', fun name => List.perm_dlookup name nodup perm'⟩

end Order

/-- The same settings and, under every name, the same client. -/
structure Alike (c c' : AppConfig) : Prop where
  apiConfig : c'.apiConfig = c.apiConfig
  logLevel : c'.logLevel = c.logLevel
  name : c'.name = c.name
  clients : ∀ service,
    c'.infrastructureConfig.clients.lookup service = c.infrastructureConfig.clients.lookup service

theorem Alike.valid {c c' : AppConfig} (alike : Alike c c') (valid : c.Valid) : c'.Valid where
  api := alike.apiConfig ▸ valid.api
  serverAddress := alike.apiConfig ▸ valid.serverAddress
  infrastructure :=
    ⟨fun name client found => valid.infrastructure.clients name client (alike.clients name ▸ found),
      fun camera video hcamera hvideo => valid.infrastructure.paired camera video
        (alike.clients _ ▸ hcamera) (alike.clients _ ▸ hvideo)⟩
  logLevel := alike.logLevel ▸ valid.logLevel
  name := alike.name ▸ valid.name

/-- The entries of a map can be written in any order: a tree is accepted when a reordered
one is, with the same settings and clients. -/
theorem order_irrelevant {filename : String} {tree tree' : Node} (same : tree.Reordered tree') :
    (∀ c, new decode filename (some (.ok tree)) = .ok c →
      ∃ c', new decode filename (some (.ok tree')) = .ok c' ∧ Alike c c') ∧
    ∀ what, new decode filename (some (.ok tree)) = .error what →
      ∃ what', new decode filename (some (.ok tree')) = .error what' := by
  have moves : ∀ {tree tree' : Node} {c}, tree.Reordered tree' →
      new decode filename (some (.ok tree)) = .ok c →
      ∃ c', new decode filename (some (.ok tree')) = .ok c' ∧ Alike c c' := by
    intro tree tree' c same created
    obtain ⟨_, appNode, ⟨⟩, found, accepted⟩ := accepted_of_new created
    obtain ⟨appNode', found', same⟩ := same.get_some found
    obtain ⟨table, written, clients⟩ := accepted.clients
    obtain ⟨table', written', lookups⟩ := written.reordered same
    have alike : Alike c { c with infrastructureConfig := ⟨UnorderedMap.emplaceAll ∅ table'⟩ } := by
      refine ⟨rfl, rfl, rfl, fun service => ?_⟩
      rw [clients, UnorderedMap.lookup_emplaceAll, UnorderedMap.lookup_emplaceAll, lookups]
    refine ⟨_, new_of_accepted filename found' ?_, alike⟩
    exact ⟨accepted.api.reordered same, accepted.serverAddress.reordered same,
      accepted.logLevel.reordered same, accepted.name.reordered same, ⟨table', written', rfl⟩,
      alike.valid accepted.valid⟩
  refine ⟨fun c created => moves same created, fun what refused => ?_⟩
  cases result : new decode filename (some (.ok tree')) with
  | error what' => exact ⟨what', rfl⟩
  | ok c' =>
      obtain ⟨c, created, -⟩ := moves same.symm result
      rw [refused] at created
      cases created

/-- A configuration as it is written by hand, and the same with its sections and services
the other way round. -/
def handwrittenTree : Node :=
  object [("app", object [
    ("name", .scalar "sensor-core"), ("log_level", .scalar "info"),
    ("api", object [("api_type", .scalar "grpc"), ("server_address", .scalar "0.0.0.0:50051")]),
    ("infrastructure", object [("clients", object [
      ("camera_service", object [("address", .scalar "camera:50050")]),
      ("video_service", object [("address", .scalar "video:50060")])])])])]

def rearrangedTree : Node :=
  object [("app", object [
    ("infrastructure", object [("clients", object [
      ("video_service", object [("address", .scalar "video:50060")]),
      ("camera_service", object [("address", .scalar "camera:50050")])])]),
    ("api", object [("server_address", .scalar "0.0.0.0:50051"), ("api_type", .scalar "grpc")]),
    ("log_level", .scalar "info"), ("name", .scalar "sensor-core")])]

theorem handwrittenTree_reordered : handwrittenTree.Reordered rearrangedTree := by
  have single : ∀ key {node node'}, Node.Reordered node node' →
      (object [(key, node)]).Reordered (object [(key, node')]) := by
    intro key node node' same
    refine .object (List.nodup_singleton _) ?_ (List.Perm.refl [(key, node')])
    exact .cons ⟨rfl, same⟩ .nil
  have swapped : ∀ {key key' node node'}, key ≠ key' → Node.Reordered node node →
      Node.Reordered node' node' →
      (object [(key, node), (key', node')]).Reordered (object [(key', node'), (key, node)]) := by
    intro key key' node node' differ same same'
    exact .object (by simpa using differ) (.cons ⟨rfl, same⟩ (.cons ⟨rfl, same'⟩ .nil))
      (.swap _ _ _)
  have api := swapped (show "api_type" ≠ "server_address" by decide) (.scalar "grpc")
    (.scalar "0.0.0.0:50051")
  have clients := swapped (show "camera_service" ≠ "video_service" by decide)
    (single "address" (.scalar "camera:50050")) (single "address" (.scalar "video:50060"))
  refine single "app" (.object (by decide) ?_ (List.reverse_perm _))
  exact .cons ⟨rfl, .scalar _⟩ (.cons ⟨rfl, .scalar _⟩
    (.cons ⟨rfl, api⟩ (.cons ⟨rfl, single "clients" clients⟩ .nil)))

theorem order_irrelevant_rearrangedTree :
    ∃ c c', new readDecimal "config.yaml" (some (.ok handwrittenTree)) = .ok c ∧
      new readDecimal "config.yaml" (some (.ok rearrangedTree)) = .ok c' ∧ Alike c c' := by
  have accepted : new readDecimal "config.yaml" (some (.ok handwrittenTree)) =
      .ok singleCamera := rfl
  obtain ⟨c', accepted', alike⟩ :=
    (order_irrelevant handwrittenTree_reordered).1 singleCamera accepted
  exact ⟨singleCamera, c', accepted, accepted', alike⟩

end SensorCore.Config.ConfigManager
