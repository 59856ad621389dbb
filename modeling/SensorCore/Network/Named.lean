import SensorCore.Network.Interfaces

/-!
The address of an interface that the caller names (`getIpAddress`), and what it has to
do with the primary address.

The loop stops at the first IPv4 entry with the name, whatever its flags
(`getIpAddress_answer`). An interface with several addresses has several entries, which
share its flags. The primary address is then one of an interface that answers to its
name, though not always with the same address: the sort may put another entry of the
interface first (`primary_is_named`).
-/

namespace SensorCore.Network

open SensorCore.Lib

/-! ### The function -/

/-- What the loop of `getIpAddress` returns at the interface it looks for. -/
def NetworkInterface.answer (iface : NetworkInterface) (interfaceName : String) : Result String :=
  if !iface.isUp then .error ("Interface " ++ interfaceName ++ " is down")
  else if iface.ipAddress = "" then .error ("Interface " ++ interfaceName ++ " has no IP address")
  else .ok iface.ipAddress

/-- The loop of `getIpAddress`. -/
def findInterface (interfaceName : String) : List NetworkInterface → Result String
  | [] => .error ("Interface " ++ interfaceName ++ " not found")
  | iface :: rest =>
      if iface.name = interfaceName then iface.answer interfaceName
      else findInterface interfaceName rest

/-- `ifaddr` is the outcome of `getifaddrs`. -/
def getIpAddress (ifaddr : Except String (List IfAddrs)) (interfaceName : String) : Result String :=
  if interfaceName = "" then .error "Interface name cannot be empty"
  else
    match getNetworkInterfaces ifaddr with
    | .error e => .error e
    | .ok interfaces => findInterface interfaceName interfaces

/-! ### What it is for -/

/-- The entry holds this IPv4 address. -/
def IfAddrs.Carries (ifa : IfAddrs) (ip : InAddr) : Prop := ifa.ifaAddr = some ⟨afInet, ip⟩

/-- The first IPv4 entry with the name. -/
structure First (entries : List IfAddrs) (name : String) (ifa : IfAddrs) (ip : InAddr) : Prop where
  listed : ∃ before after, entries = before ++ ifa :: after ∧
    ∀ earlier ∈ before, ∀ ip', earlier.Carries ip' → earlier.ifaName ≠ name
  named : ifa.ifaName = name
  carries : ifa.Carries ip

theorem First.mem {entries : List IfAddrs} {name : String} {ifa : IfAddrs} {ip : InAddr}
    (first : First entries name ifa ip) : ifa ∈ entries := by
  obtain ⟨before, after, rfl, -⟩ := first.listed
  exact List.mem_append_right _ List.mem_cons_self

/-- The outcomes for a name. -/
inductive Answer (entries : List IfAddrs) (name : String) : Result String → Prop where
  | nameless : name = "" → Answer entries name (.error "Interface name cannot be empty")
  | unread : name ≠ "" → (∀ ifa ∈ entries, ∀ ip, ¬ ifa.Carries ip) →
      Answer entries name (.error "No network interfaces found")
  | missing {ifa : IfAddrs} {ip : InAddr} : name ≠ "" → ifa ∈ entries → ifa.Carries ip →
      (∀ ifa ∈ entries, ∀ ip, ifa.Carries ip → ifa.ifaName ≠ name) →
      Answer entries name (.error ("Interface " ++ name ++ " not found"))
  | down {ifa : IfAddrs} {ip : InAddr} : name ≠ "" → First entries name ifa ip →
      ifa.ifaFlags &&& iffUp = 0 →
      Answer entries name (.error ("Interface " ++ name ++ " is down"))
  | found {ifa : IfAddrs} {ip : InAddr} : name ≠ "" → First entries name ifa ip →
      ifa.ifaFlags &&& iffUp ≠ 0 → Answer entries name (.ok ip.text)

/-- What an IPv4 entry is read as. -/
def IfAddrs.read (ifa : IfAddrs) (ip : InAddr) : NetworkInterface :=
  { name := ifa.ifaName
    ipAddress := ip.text
    isUp := ifa.ifaFlags &&& iffUp ≠ 0
    isLoopback := ifa.ifaFlags &&& iffLoopback ≠ 0 }

theorem readEntry_of_carries {ifa : IfAddrs} {ip : InAddr} (carries : ifa.Carries ip) :
    readEntry ifa = some (ifa.read ip) := by
  rw [IfAddrs.Carries] at carries
  simp [readEntry, carries, inetNtop_eq, IfAddrs.read]

theorem readEntry_of_not_carries {ifa : IfAddrs} (other : ∀ ip, ¬ ifa.Carries ip) :
    readEntry ifa = none := by
  rw [readEntry]
  split
  · rfl
  · rename_i addr held
    apply if_pos
    intro inet
    refine other addr.sinAddr ?_
    rw [IfAddrs.Carries, held, ← inet]

/-- The loop, over the entries that it reads. -/
theorem findInterface_cases (name : String) (entries : List IfAddrs) :
    ((∀ ifa ∈ entries, ∀ ip, ifa.Carries ip → ifa.ifaName ≠ name) ∧
      findInterface name (entries.filterMap readEntry) =
        .error ("Interface " ++ name ++ " not found")) ∨
    ∃ ifa ip, First entries name ifa ip ∧
      findInterface name (entries.filterMap readEntry) = (ifa.read ip).answer name := by
  induction entries with
  | nil => exact .inl ⟨by simp, rfl⟩
  | cons ifa rest ih =>
      by_cases here : ∃ ip, ifa.Carries ip ∧ ifa.ifaName = name
      · obtain ⟨ip, carries, named⟩ := here
        refine .inr ⟨ifa, ip, ⟨⟨[], rest, rfl, by simp⟩, named, carries⟩, ?_⟩
        rw [List.filterMap_cons_some (readEntry_of_carries carries), findInterface]
        exact if_pos named
      · have skip : ∀ ip, ifa.Carries ip → ifa.ifaName ≠ name :=
          fun ip carries named => here ⟨ip, carries, named⟩
        -- an entry of another family is not read, one of another name is passed over
        have next : findInterface name ((ifa :: rest).filterMap readEntry) =
            findInterface name (rest.filterMap readEntry) := by
          by_cases inet : ∃ ip, ifa.Carries ip
          · obtain ⟨ip, carries⟩ := inet
            rw [List.filterMap_cons_some (readEntry_of_carries carries), findInterface]
            exact if_neg (skip ip carries)
          · rw [List.filterMap_cons_none (readEntry_of_not_carries (not_exists.mp inet))]
        rw [next]
        rcases ih with ⟨none_, missing⟩ | ⟨found, ip, ⟨listed, named, carries⟩, answer⟩
        · exact .inl ⟨List.forall_mem_cons.mpr ⟨skip, none_⟩, missing⟩
        · obtain ⟨before, after, rfl, earlier⟩ := listed
          refine .inr ⟨found, ip, ⟨⟨ifa :: before, after, rfl, ?_⟩, named, carries⟩, answer⟩
          exact List.forall_mem_cons.mpr ⟨skip, earlier⟩

theorem answer_read (ifa : IfAddrs) (ip : InAddr) (name : String) :
    (ifa.read ip).answer name =
      if ifa.ifaFlags &&& iffUp = 0 then .error ("Interface " ++ name ++ " is down")
      else .ok ip.text := by
  by_cases down : ifa.ifaFlags &&& iffUp = 0
  · simp [NetworkInterface.answer, IfAddrs.read, down]
  · simp [NetworkInterface.answer, IfAddrs.read, down, ip.text_ne_empty]

/-- Every request has one of the outcomes. An interface that is read has an address. -/
theorem getIpAddress_answer (entries : List IfAddrs) (name : String) :
    Answer entries name (getIpAddress (.ok entries) name) := by
  by_cases nameless : name = ""
  · rw [getIpAddress, if_pos nameless]
    exact .nameless nameless
  rw [getIpAddress, if_neg nameless]
  by_cases some_ : ∃ ifa ∈ entries, ∃ ip, ifa.Carries ip
  · obtain ⟨ifa, listed, ip, carries⟩ := some_
    have read : entries.filterMap readEntry ≠ [] := List.ne_nil_of_mem
      (List.mem_filterMap.mpr ⟨ifa, listed, readEntry_of_carries carries⟩)
    simp only [getNetworkInterfaces, if_neg read]
    rcases findInterface_cases name entries with ⟨none_, missing⟩ | ⟨first, ip', isFirst, answer⟩
    · rw [missing]
      exact .missing nameless listed carries none_
    · rw [answer, answer_read]
      split
      · rename_i down
        exact .down nameless isFirst down
      · rename_i up
        exact .found nameless isFirst up
  · have none_ : ∀ ifa ∈ entries, ∀ ip, ¬ ifa.Carries ip :=
      fun ifa listed ip carries => some_ ⟨ifa, listed, ip, carries⟩
    have unread : entries.filterMap readEntry = [] :=
      List.filterMap_eq_nil_iff.mpr
        fun ifa listed => readEntry_of_not_carries (none_ ifa listed)
    simp only [getNetworkInterfaces, if_pos unread]
    exact .unread nameless none_

/-! ### The primary address -/

/-- A list as `getifaddrs` gives it: interfaces have names, and the entries of one
interface have its flags. -/
structure Interfaces (entries : List IfAddrs) : Prop where
  named : ∀ ifa ∈ entries, ifa.ifaName ≠ ""
  flags : ∀ ifa ∈ entries, ∀ ifa' ∈ entries, ifa.ifaName = ifa'.ifaName →
    ifa.ifaFlags = ifa'.ifaFlags

/-- The interface is not loopback. -/
def External (entries : List IfAddrs) (name : String) : Prop :=
  ∀ ifa ∈ entries, ifa.ifaName = name → ifa.ifaFlags &&& iffLoopback = 0

/-- The interface has this address. -/
def HasAddress (entries : List IfAddrs) (name address : String) : Prop :=
  ∃ ifa ∈ entries, ∃ ip, ifa.ifaName = name ∧ ifa.Carries ip ∧ address = ip.text

/-- The interface of an eligible entry answers to its name. -/
theorem Interfaces.answers {entries : List IfAddrs} (whole : Interfaces entries) {ifa : IfAddrs}
    {ip : InAddr} (listed : ifa ∈ entries) (eligible : ifa.Eligible ip) :
    External entries ifa.ifaName ∧ ∃ address, getIpAddress (.ok entries) ifa.ifaName = .ok address ∧
      HasAddress entries ifa.ifaName address := by
  constructor
  · intro other hother named
    rw [whole.flags other hother ifa listed named]
    exact eligible.external
  · have outcome := getIpAddress_answer entries ifa.ifaName
    generalize getIpAddress (.ok entries) ifa.ifaName = result at outcome
    cases outcome with
    | nameless nameless => exact absurd nameless (whole.named ifa listed)
    | unread _ none_ => exact absurd eligible.address (none_ ifa listed ip)
    | missing _ _ _ none_ => exact absurd rfl (none_ ifa listed ip eligible.address)
    | down _ first down =>
        rw [whole.flags _ first.mem ifa listed first.named] at down
        exact absurd down eligible.up
    | found _ first _ => exact ⟨_, rfl, _, first.mem, _, first.named, first.carries, rfl⟩

/-- An interface that answers to its name and is not loopback has an eligible entry. -/
theorem eligible_of_answer {entries : List IfAddrs} {name address : String}
    (external : External entries name) (answer : getIpAddress (.ok entries) name = .ok address) :
    ∃ ifa ∈ entries, ∃ ip, ifa.ifaName = name ∧ ifa.Eligible ip := by
  have outcome := getIpAddress_answer entries name
  rw [answer] at outcome
  cases outcome with
  | found _ first up =>
      exact ⟨_, first.mem, _, first.named, first.carries, up, external _ first.mem first.named⟩

/-- There is a primary address exactly when some interface other than a loopback one
answers to its name. It is then an address of such an interface, of the best kind there
is; the answer to the name is an address of the same interface. -/
theorem primary_is_named (std : Sorter ByPriority) (entries : List IfAddrs)
    (whole : Interfaces entries) :
    ((∃ address, getPrimaryIpAddress std (.ok entries) = .ok address) ↔
      ∃ name address, External entries name ∧ getIpAddress (.ok entries) name = .ok address) ∧
    ∀ address, getPrimaryIpAddress std (.ok entries) = .ok address →
      ∃ name answered, External entries name ∧
        getIpAddress (.ok entries) name = .ok answered ∧
        HasAddress entries name address ∧ HasAddress entries name answered ∧
        ∀ rival other, External entries rival → getIpAddress (.ok entries) rival = .ok other →
          ¬ Better rival name := by
  rcases getPrimaryIpAddress_cases std entries with ⟨none_, failed⟩ | ⟨ifa, ip, best, found⟩
  · rw [failed]
    refine ⟨⟨?_, ?_⟩, ?_⟩
    · rintro ⟨address, found⟩
      cases found
    · rintro ⟨name, address, external, answer⟩
      obtain ⟨ifa, listed, ip, -, eligible⟩ := eligible_of_answer external answer
      exact absurd eligible (none_ ifa listed ip)
    · intro address found
      cases found
  · obtain ⟨external, answered, answer, has⟩ := whole.answers best.listed best.eligible
    rw [found]
    refine ⟨⟨fun _ => ⟨_, _, external, answer⟩, fun _ => ⟨_, rfl⟩⟩, ?_⟩
    intro address same
    cases same
    refine ⟨_, answered, external, answer,
      ⟨ifa, best.listed, ip, rfl, best.eligible.address, rfl⟩, has, ?_⟩
    intro rival other external' answer' better
    obtain ⟨ifa', listed, ip', rfl, eligible⟩ := eligible_of_answer external' answer'
    exact best.first ifa' listed ip' eligible better

/-- An access point with two addresses, the loopback interface and an interface that is
down. -/
def accessPoint : List IfAddrs :=
  [⟨"lo", some ⟨afInet, ⟨127, 0, 0, 1⟩⟩, 0x9⟩, ⟨"eth0", some ⟨afInet, ⟨10, 0, 0, 1⟩⟩, 0x0⟩,
    ⟨"wlan0", none, 0x1⟩, ⟨"wlan0", some ⟨afInet, ⟨10, 0, 0, 2⟩⟩, 0x1⟩,
    ⟨"wlan0", some ⟨afInet, ⟨10, 0, 0, 3⟩⟩, 0x1⟩]

theorem primary_is_named_accessPoint :
    getPrimaryIpAddress (.insertion _) (.ok accessPoint) = .ok "10.0.0.2" ∧
      ∃ name answered, getIpAddress (.ok accessPoint) name = .ok answered ∧
        HasAddress accessPoint name "10.0.0.2" ∧ HasAddress accessPoint name answered := by
  have primary : getPrimaryIpAddress (.insertion _) (.ok accessPoint) = .ok "10.0.0.2" := rfl
  have whole : Interfaces accessPoint := ⟨by decide, by decide⟩
  obtain ⟨name, answered, -, answer, has, has', -⟩ :=
    (primary_is_named (.insertion _) accessPoint whole).2 _ primary
  exact ⟨primary, name, answered, answer, has, has'⟩

end SensorCore.Network
