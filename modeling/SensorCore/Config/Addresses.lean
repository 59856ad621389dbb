import SensorCore.Config.Model
import SensorCore.Lib.LastSplit

/-!
Addresses of an accepted configuration.

The validators ask for an address of the form host:port, and look for a colon
anywhere in it. `HostPort` is the form, `Gap` says what a text with a colon can be
missing of it. Both validators let every gap through: `format_iff`.
-/

namespace SensorCore.Config

open SensorCore.Lib

/-- A host, a colon and the digits of a port. The port has no colon in it, so it is what
comes after the last one. -/
def HostPort (address : String) : Prop :=
  ∃ host port, address.toList = host ++ ':' :: port ∧ host ≠ [] ∧ port ≠ [] ∧
    ∀ c ∈ port, c.isDigit = true

/-- There is nothing before the last colon, nothing after it, or something after it that
is not a digit. -/
def Gap (address : String) : Prop :=
  ∃ parts ∈ splitLast ':' address.toList,
    parts.1 = [] ∨ parts.2 = [] ∨ ∃ c ∈ parts.2, c.isDigit = false

-- The search goes through the port, not through all characters.
instance (address : String) : Decidable (Gap address) :=
  have (port : List Char) : Decidable (∃ c ∈ port, c.isDigit = false) := List.decidableBEx _ port
  inferInstanceAs (Decidable (∃ _ ∈ _, _))

/-- Digits have no colon among them. -/
theorem colon_not_mem {port : List Char} (digits : ∀ c ∈ port, c.isDigit = true) : ':' ∉ port := by
  intro mem
  have digit := digits ':' mem
  revert digit
  decide

/-- With a colon in it, a text has the form or a gap. -/
theorem hostPort_iff {address : String} (colon : ':' ∈ address.toList) :
    HostPort address ↔ ¬ Gap address := by
  constructor
  · rintro ⟨host, port, text, named, numbered, digits⟩ ⟨parts, found, gap⟩
    have split_ := splitLast_eq_some_iff.mpr ⟨text, colon_not_mem digits⟩
    rw [Option.mem_def.mp found] at split_
    cases split_
    rcases gap with empty | empty | ⟨c, mem, other⟩
    · exact named empty
    · exact numbered empty
    · rw [digits c mem] at other
      cases other
  · intro complete
    cases parts : splitLast ':' address.toList with
    | none => exact absurd colon (splitLast_eq_none_iff.mp parts)
    | some split_ =>
        obtain ⟨host, port⟩ := split_
        refine ⟨host, port, (splitLast_sound parts).1, ?_, ?_, ?_⟩
        · intro empty
          exact complete ⟨_, parts, .inl empty⟩
        · intro empty
          exact complete ⟨_, parts, .inr (.inl empty)⟩
        · intro c mem
          by_contra other
          exact complete ⟨_, parts, .inr (.inr ⟨c, mem, Bool.eq_false_iff.mpr other⟩)⟩

/-- The address of the server and those of all instances. -/
def AppConfig.addresses (c : AppConfig) : List String :=
  c.apiConfig.serverAddress ::
    c.infrastructureConfig.clients.entries.flatMap fun entry =>
      entry.2.instances.map ServiceInstance.address

/-- An accepted configuration has a colon in each of its addresses. -/
theorem addressOk_of_accepted {c : AppConfig} (accepted : c.validate = .ok ()) {address : String}
    (mem : address ∈ c.addresses) : AddressOk address := by
  have valid := AppConfig.validate_iff.mp accepted
  rcases List.mem_cons.mp mem with rfl | mem
  · exact valid.serverAddress
  · obtain ⟨⟨name, client⟩, listed, written⟩ := List.mem_flatMap.mp mem
    obtain ⟨i, instance_, rfl⟩ := List.mem_map.mp written
    have client := valid.infrastructure.clients name client (AList.mem_lookup_iff.mpr listed)
    exact client.2 i instance_

/-- The addresses of an accepted configuration have the form exactly when none of them
has a gap. -/
theorem format_iff {c : AppConfig} (accepted : c.validate = .ok ()) :
    (∀ address ∈ c.addresses, HostPort address) ↔ ∀ address ∈ c.addresses, ¬ Gap address := by
  apply forall₂_congr
  intro address mem
  exact hostPort_iff (addressOk_of_accepted accepted mem).2

/-- A configuration of one camera, by its two addresses. -/
def oneCamera (serverAddress address : String) : AppConfig where
  apiConfig := ⟨"grpc", serverAddress⟩
  coreConfig := ⟨⟩
  infrastructureConfig := ⟨UnorderedMap.emplace ∅ "camera_service" ⟨[⟨0, address⟩]⟩⟩
  logLevel := "info"
  name := "sensor-core"

theorem format_iff_oneCamera :
    (oneCamera "0.0.0.0:50051" "camera.local:50050").validate = .ok () ∧
      HostPort "0.0.0.0:50051" ∧ HostPort "camera.local:50050" := by
  have accepted : (oneCamera "0.0.0.0:50051" "camera.local:50050").validate = .ok () := rfl
  have form := (format_iff accepted).mpr (by decide)
  exact ⟨accepted, form _ List.mem_cons_self, form _ (List.mem_cons_of_mem _ List.mem_cons_self)⟩

/-- Neither a port nor a host is asked for. -/
theorem oneCamera_not_hostPort :
    ¬ ∀ c : AppConfig, c.validate = .ok () → ∀ address ∈ c.addresses, HostPort address := by
  intro form
  have server := form (oneCamera "localhost:" ":") rfl "localhost:" List.mem_cons_self
  exact (hostPort_iff (by decide)).mp server (by decide)

end SensorCore.Config
