import Mathlib.Data.Nat.Digits.Defs
import SensorCore.Lib.Checks
import SensorCore.Lib.Sorting

/-!
The network interfaces of the device (`common/network/NetworkUtils`).

`getifaddrs` returns a list of entries, one for each address of each interface, in an
order of its own. `getPrimaryIpAddress` takes those that are IPv4, up and not loopback,
sorts them by the kind of their name and returns the address of the first.

The specification side is `Eligible`, `Kind` and `Best`: six kinds of names that
exclude each other, where the source has five overlapping tests in a row
(`getPriority_eq_iff`), and the eligible entries of the best kind.
-/

namespace SensorCore.Network

open SensorCore.Lib

/-! ### What the operating system returns -/

/-- The four bytes of an IPv4 address. -/
structure InAddr where
  a : UInt8
  b : UInt8
  c : UInt8
  d : UInt8
  deriving DecidableEq, Repr

/-- `struct sockaddr`, with the bytes that hold the address when the family is IPv4. -/
structure SockAddr where
  saFamily : UInt16
  sinAddr : InAddr
  deriving DecidableEq, Repr

/-- `struct ifaddrs`, without the link to the next entry. -/
structure IfAddrs where
  ifaName : String
  ifaAddr : Option SockAddr
  ifaFlags : UInt32
  deriving DecidableEq, Repr

def afInet : UInt16 := 2
def iffUp : UInt32 := 0x1
def iffLoopback : UInt32 := 0x8
def inetAddrStrLen : Nat := 16

/-- Dotted decimal. -/
def InAddr.text (ip : InAddr) : String :=
  Nat.repr ip.a.toNat ++ "." ++ Nat.repr ip.b.toNat ++ "." ++ Nat.repr ip.c.toNat ++ "." ++
    Nat.repr ip.d.toNat

/-- `inet_ntop(AF_INET, …)`: the text, when it fits in the buffer with its final zero. -/
def inetNtop (ip : InAddr) (size : Nat) : Option String :=
  if ip.text.length < size then some ip.text else none

theorem repr_byte_length (b : UInt8) : (Nat.repr b.toNat).length ≤ 3 :=
  Nat.repr_length _ 3 (by omega) (Nat.lt_trans b.toNat_lt (by decide))

/-- Every address fits in a buffer of the standard size. -/
theorem inetNtop_eq (ip : InAddr) : inetNtop ip inetAddrStrLen = some ip.text := by
  have ha := repr_byte_length ip.a
  have hb := repr_byte_length ip.b
  have hc := repr_byte_length ip.c
  have hd := repr_byte_length ip.d
  have dot : ".".length = 1 := rfl
  apply if_pos
  simp only [InAddr.text, String.length_append, dot, inetAddrStrLen]
  omega

theorem InAddr.text_ne_empty (ip : InAddr) : ip.text ≠ "" := by
  intro empty
  have length := congrArg String.length empty
  have dot : ".".length = 1 := rfl
  simp only [InAddr.text, String.length_append, dot, String.length_empty] at length
  omega

/-! ### The functions -/

structure NetworkInterface where
  name : String
  ipAddress : String
  isUp : Bool
  isLoopback : Bool
  deriving DecidableEq, Repr

/-- One turn of the loop in `getNetworkInterfaces`: what is pushed, if anything. -/
def readEntry (ifa : IfAddrs) : Option NetworkInterface :=
  match ifa.ifaAddr with
  | none => none
  | some addr =>
      if addr.saFamily ≠ afInet then none
      else
        match inetNtop addr.sinAddr inetAddrStrLen with
        | none => none
        | some ipAddress => some
            { name := ifa.ifaName
              ipAddress
              isUp := ifa.ifaFlags &&& iffUp ≠ 0
              isLoopback := ifa.ifaFlags &&& iffLoopback ≠ 0 }

/-- `ifaddr` is the outcome of `getifaddrs`: its list, or the text of `errno`. -/
def getNetworkInterfaces (ifaddr : Except String (List IfAddrs)) : Result (List NetworkInterface) :=
  match ifaddr with
  | .error errno => .error ("Failed to get network interfaces: " ++ errno)
  | .ok entries =>
      let interfaces := entries.filterMap readEntry
      if interfaces = [] then .error "No network interfaces found" else .ok interfaces

/-- `name.rfind(start, 0) == 0` -/
abbrev StartsWith (start name : String) : Prop := start.toList <+: name.toList

/-- Priority: eth0 > ethX > wlan0 > wlanX > others -/
def getPriority (name : String) : Nat :=
  if name = "eth0" then 0
  else if StartsWith "eth" name then 1
  else if name = "wlan0" then 2
  else if StartsWith "wlan" name then 3
  else if StartsWith "en" name then 4  -- Modern naming like enp0s3
  else 5

/-- The comparator of the sort. -/
abbrev ByPriority (x y : NetworkInterface) : Prop := getPriority x.name < getPriority y.name

instance : IsStrictWeakOrder NetworkInterface ByPriority := strictWeak_of_rank _

/-- The filter of `getPrimaryIpAddress`. -/
def NetworkInterface.isValid (iface : NetworkInterface) : Bool :=
  !iface.isLoopback && iface.isUp && iface.ipAddress ≠ ""

/-- `std` is the sort of the standard library. -/
def getPrimaryIpAddress (std : Sorter ByPriority) (ifaddr : Except String (List IfAddrs)) :
    Result String :=
  match getNetworkInterfaces ifaddr with
  | .error e => .error e
  | .ok interfaces =>
      let validInterfaces := interfaces.filter NetworkInterface.isValid
      if filled : validInterfaces = [] then
        .error "No valid non-loopback network interfaces found"
      else .ok ((std.sort validInterfaces).head (std.sort_ne_nil filled)).ipAddress

/-! ### What they are for -/

/-- The entry is IPv4 with this address, up and not loopback. -/
structure IfAddrs.Eligible (ifa : IfAddrs) (ip : InAddr) : Prop where
  address : ifa.ifaAddr = some ⟨afInet, ip⟩
  up : ifa.ifaFlags &&& iffUp ≠ 0
  external : ifa.ifaFlags &&& iffLoopback = 0

/-- The kinds of names, best first. -/
inductive Kind where
  | eth0
  | eth
  | wlan0
  | wlan
  | en
  | other
  deriving DecidableEq, Repr

/-- The place of a kind. -/
def Kind.rank : Kind → Nat
  | .eth0 => 0
  | .eth => 1
  | .wlan0 => 2
  | .wlan => 3
  | .en => 4
  | .other => 5

/-- The names of a kind. -/
def Kind.Names (name : String) : Kind → Prop
  | .eth0 => name = "eth0"
  | .eth => StartsWith "eth" name ∧ name ≠ "eth0"
  | .wlan0 => name = "wlan0"
  | .wlan => StartsWith "wlan" name ∧ name ≠ "wlan0"
  | .en => StartsWith "en" name
  | .other => ¬ StartsWith "eth" name ∧ ¬ StartsWith "wlan" name ∧ ¬ StartsWith "en" name

/-- A name of a strictly better kind. -/
def Better (name name' : String) : Prop :=
  ∃ kind kind' : Kind, kind.Names name ∧ kind'.Names name' ∧ kind.rank < kind'.rank

/-- An eligible entry, with its address, that no eligible entry is better than. -/
structure Best (entries : List IfAddrs) (ifa : IfAddrs) (ip : InAddr) : Prop where
  listed : ifa ∈ entries
  eligible : ifa.Eligible ip
  first : ∀ rival ∈ entries, ∀ ip', rival.Eligible ip' → ¬ Better rival.ifaName ifa.ifaName

/-- A name has no second start, unless one start is a start of the other. -/
theorem StartsWith.excludes {start start' name : String} (h : StartsWith start name)
    (apart : ¬ (start.toList <+: start'.toList ∨ start'.toList <+: start.toList)) :
    ¬ StartsWith start' name :=
  fun h' => apart (List.prefix_or_prefix_of_prefix h h')

/-- A name without a start is not a text with it. -/
theorem StartsWith.ne {start text name : String} (starts : StartsWith start text)
    (other : ¬ StartsWith start name) : name ≠ text := by
  rintro rfl
  exact other starts

/-- The tests in a row find the kind of a name. -/
theorem Kind.Names.priority {name : String} {kind : Kind} (names : kind.Names name) :
    getPriority name = kind.rank := by
  have eth0 : StartsWith "eth" "eth0" := by decide
  have wlan0 : StartsWith "wlan" "wlan0" := by decide
  cases kind with
  | eth0 =>
      have name_eq : name = "eth0" := names
      rw [getPriority, if_pos name_eq, rank]
  | eth => rw [getPriority, if_neg names.2, if_pos names.1, rank]
  | wlan0 =>
      have name_eq : name = "wlan0" := names
      subst name_eq
      decide
  | wlan =>
      have notEth : ¬ StartsWith "eth" name := names.1.excludes (by decide)
      rw [getPriority, if_neg (eth0.ne notEth), if_neg notEth, if_neg names.2, if_pos names.1, rank]
  | en =>
      have starts : StartsWith "en" name := names
      have notEth : ¬ StartsWith "eth" name := starts.excludes (by decide)
      have notWlan : ¬ StartsWith "wlan" name := starts.excludes (by decide)
      rw [getPriority, if_neg (eth0.ne notEth), if_neg notEth, if_neg (wlan0.ne notWlan),
        if_neg notWlan, if_pos starts, rank]
  | other =>
      obtain ⟨notEth, notWlan, notEn⟩ := names
      rw [getPriority, if_neg (eth0.ne notEth), if_neg notEth, if_neg (wlan0.ne notWlan),
        if_neg notWlan, if_neg notEn, rank]

/-- Every name is of some kind. -/
theorem exists_kind (name : String) : ∃ kind : Kind, kind.Names name := by
  by_cases eth : StartsWith "eth" name
  · by_cases eth0 : name = "eth0"
    · exact ⟨.eth0, eth0⟩
    · exact ⟨.eth, eth, eth0⟩
  · by_cases wlan : StartsWith "wlan" name
    · by_cases wlan0 : name = "wlan0"
      · exact ⟨.wlan0, wlan0⟩
      · exact ⟨.wlan, wlan, wlan0⟩
    · by_cases en : StartsWith "en" name
      · exact ⟨.en, en⟩
      · exact ⟨.other, eth, wlan, en⟩

theorem Kind.rank_injective : Function.Injective Kind.rank := by
  intro kind kind' same
  cases kind <;> cases kind' <;> first | rfl | cases same

/-- The priority of a name says which kind it is of. -/
theorem getPriority_eq_iff {name : String} {kind : Kind} :
    getPriority name = kind.rank ↔ kind.Names name := by
  constructor
  · intro priority
    obtain ⟨kind', names⟩ := exists_kind name
    have same := Kind.rank_injective (priority.symm.trans names.priority)
    rw [same]
    exact names
  · intro names
    exact names.priority

/-- The comparator of the source compares kinds. -/
theorem better_iff {name name' : String} :
    Better name name' ↔ getPriority name < getPriority name' := by
  constructor
  · rintro ⟨kind, kind', names, names', less⟩
    rw [names.priority, names'.priority]
    exact less
  · intro less
    obtain ⟨kind, names⟩ := exists_kind name
    obtain ⟨kind', names'⟩ := exists_kind name'
    rw [names.priority, names'.priority] at less
    exact ⟨kind, kind', names, names', less⟩

/-! ### The selection -/

/-- The interface an eligible entry is read as. -/
def IfAddrs.interface (ifa : IfAddrs) (ip : InAddr) : NetworkInterface :=
  { name := ifa.ifaName, ipAddress := ip.text, isUp := true, isLoopback := false }

/-- Both filters at once. -/
def IfAddrs.candidate (ifa : IfAddrs) : Option NetworkInterface :=
  (readEntry ifa).filter NetworkInterface.isValid

/-- The eligible entries pass both filters, and no others. -/
theorem IfAddrs.candidate_eq_some_iff {ifa : IfAddrs} {iface : NetworkInterface} :
    ifa.candidate = some iface ↔ ∃ ip, ifa.Eligible ip ∧ iface = ifa.interface ip := by
  rw [candidate, Option.filter_eq_some_iff]
  constructor
  · rintro ⟨read, valid⟩
    obtain ⟨name, addr, flags⟩ := ifa
    cases addr with
    | none => cases read
    | some addr =>
        obtain ⟨family, ip⟩ := addr
        simp only [readEntry, inetNtop_eq] at read
        split at read
        · cases read
        · rename_i inet
          rw [not_not] at inet
          subst inet
          cases read
          simp only [NetworkInterface.isValid, Bool.and_eq_true, Bool.not_eq_true',
            decide_eq_false_iff_not, decide_eq_true_eq, not_not] at valid
          obtain ⟨⟨external, up⟩, -⟩ := valid
          refine ⟨ip, ⟨rfl, up, external⟩, ?_⟩
          simp [interface, up, external]
  · rintro ⟨ip, ⟨address, up, external⟩, rfl⟩
    constructor
    · simp [readEntry, address, inetNtop_eq, interface, up, external]
    · simp [NetworkInterface.isValid, interface, ip.text_ne_empty]

/-- The error for a list without an eligible entry. -/
def failure (entries : List IfAddrs) : String :=
  if entries.filterMap readEntry = [] then "No network interfaces found"
  else "No valid non-loopback network interfaces found"

/-- The function is a selection: filter, sort, take the first. -/
theorem getPrimaryIpAddress_eq (std : Sorter ByPriority) (entries : List IfAddrs) :
    getPrimaryIpAddress std (.ok entries) =
      ((std.sort (entries.filterMap IfAddrs.candidate)).head?.map NetworkInterface.ipAddress).elim
        (.error (failure entries)) .ok := by
  have both : entries.filterMap IfAddrs.candidate =
      (entries.filterMap readEntry).filter NetworkInterface.isValid := List.filter_filterMap.symm
  rw [both]
  by_cases unread : entries.filterMap readEntry = []
  · simp [getPrimaryIpAddress, getNetworkInterfaces, failure, unread]
  · simp only [getPrimaryIpAddress, getNetworkInterfaces, failure, unread, if_false]
    by_cases empty : (entries.filterMap readEntry).filter NetworkInterface.isValid = []
    · rw [dif_pos empty, empty, std.sort_nil]
      rfl
    · rw [dif_neg empty, List.head?_eq_some_head (std.sort_ne_nil empty)]
      rfl

/-- What is least for the comparator is a best entry. -/
theorem least_iff {entries : List IfAddrs} {iface : NetworkInterface} :
    Least ByPriority (entries.filterMap IfAddrs.candidate) iface ↔
      ∃ ifa ip, Best entries ifa ip ∧ iface = ifa.interface ip := by
  constructor
  · rintro ⟨mem, least⟩
    obtain ⟨ifa, listed, kept⟩ := List.mem_filterMap.mp mem
    obtain ⟨ip, eligible, rfl⟩ := IfAddrs.candidate_eq_some_iff.mp kept
    refine ⟨ifa, ip, ⟨listed, eligible, ?_⟩, rfl⟩
    intro rival hrival ip' eligible' better
    have passes := IfAddrs.candidate_eq_some_iff.mpr ⟨ip', eligible', rfl⟩
    exact least _ (List.mem_filterMap.mpr ⟨rival, hrival, passes⟩) (better_iff.mp better)
  · rintro ⟨ifa, ip, best, rfl⟩
    have passes := IfAddrs.candidate_eq_some_iff.mpr ⟨ip, best.eligible, rfl⟩
    refine ⟨List.mem_filterMap.mpr ⟨ifa, best.listed, passes⟩, ?_⟩
    intro iface mem less
    obtain ⟨rival, hrival, kept⟩ := List.mem_filterMap.mp mem
    obtain ⟨ip', eligible', rfl⟩ := IfAddrs.candidate_eq_some_iff.mp kept
    exact best.first rival hrival ip' eligible' (better_iff.mpr less)

/-- The outcome: an error without an eligible entry, and otherwise the address of a best one. -/
theorem getPrimaryIpAddress_cases (std : Sorter ByPriority) (entries : List IfAddrs) :
    ((∀ ifa ∈ entries, ∀ ip, ¬ ifa.Eligible ip) ∧
      getPrimaryIpAddress std (.ok entries) = .error (failure entries)) ∨
    ∃ ifa ip, Best entries ifa ip ∧ getPrimaryIpAddress std (.ok entries) = .ok ip.text := by
  rw [getPrimaryIpAddress_eq]
  by_cases empty : entries.filterMap IfAddrs.candidate = []
  · refine .inl ⟨?_, by rw [empty, std.sort_nil]; rfl⟩
    intro ifa listed ip eligible
    have passes := IfAddrs.candidate_eq_some_iff.mpr ⟨ip, eligible, rfl⟩
    have mem := List.mem_filterMap.mpr ⟨ifa, listed, passes⟩
    rw [empty] at mem
    cases mem
  · have filled := std.sort_ne_nil empty
    obtain ⟨ifa, ip, best, found⟩ := least_iff.mp (std.head_least filled)
    refine .inr ⟨ifa, ip, best, ?_⟩
    rw [List.head?_eq_some_head filled, found]
    rfl

/-- The primary address is one of an eligible entry that no eligible entry is better
than; there is none exactly when no entry is eligible. -/
theorem primary_address_best (std : Sorter ByPriority) (entries : List IfAddrs) :
    ((∃ e, getPrimaryIpAddress std (.ok entries) = .error e) ↔
      ∀ ifa ∈ entries, ∀ ip, ¬ ifa.Eligible ip) ∧
    ∀ address, getPrimaryIpAddress std (.ok entries) = .ok address →
      ∃ ifa ip, Best entries ifa ip ∧ address = ip.text := by
  rcases getPrimaryIpAddress_cases std entries with ⟨none_, failed⟩ | ⟨ifa, ip, best, found⟩
  · rw [failed]
    refine ⟨⟨fun _ => none_, fun _ => ⟨_, rfl⟩⟩, ?_⟩
    intro address found
    cases found
  · rw [found]
    refine ⟨⟨?_, ?_⟩, ?_⟩
    · rintro ⟨e, failed⟩
      cases failed
    · intro none_
      exact absurd best.eligible (none_ ifa best.listed ip)
    · intro address same
      cases same
      exact ⟨ifa, ip, best, rfl⟩

example : getPrimaryIpAddress (.insertion _) (.ok
    [⟨"lo", some ⟨afInet, ⟨127, 0, 0, 1⟩⟩, 0x9⟩,
      ⟨"eth0", some ⟨afInet, ⟨10, 0, 0, 1⟩⟩, 0x0⟩,
      ⟨"enp0s3", some ⟨afInet, ⟨10, 0, 0, 2⟩⟩, 0x1⟩,
      ⟨"wlan1", some ⟨afInet, ⟨10, 0, 0, 3⟩⟩, 0x1⟩]) =
    .ok "10.0.0.3" := rfl

/-! ### Other orders of the list, other sorts -/

/-- Two outcomes that differ at most in which of the best entries was chosen. -/
inductive Tied (entries : List IfAddrs) : Result String → Result String → Prop where
  | failed {e : String} : (∀ ifa ∈ entries, ∀ ip, ¬ ifa.Eligible ip) →
      Tied entries (.error e) (.error e)
  | chosen {kind : Kind} {ifa ifa' : IfAddrs} {ip ip' : InAddr} :
      Best entries ifa ip → Best entries ifa' ip' →
      kind.Names ifa.ifaName → kind.Names ifa'.ifaName →
      Tied entries (.ok ip.text) (.ok ip'.text)

/-- All best entries have one address. -/
def OneAddress (entries : List IfAddrs) : Prop :=
  ∀ ifa ip ifa' ip', Best entries ifa ip → Best entries ifa' ip' → ip.text = ip'.text

theorem Best.of_perm {entries listed : List IfAddrs} {ifa : IfAddrs} {ip : InAddr}
    (best : Best listed ifa ip) (perm : listed.Perm entries) : Best entries ifa ip where
  listed := perm.mem_iff.mp best.listed
  eligible := best.eligible
  first rival hrival := best.first rival (perm.mem_iff.mpr hrival)

/-- Best entries are of one kind. -/
theorem Best.same_kind {entries : List IfAddrs} {ifa ifa' : IfAddrs} {ip ip' : InAddr}
    (best : Best entries ifa ip) (best' : Best entries ifa' ip') :
    ∃ kind : Kind, kind.Names ifa.ifaName ∧ kind.Names ifa'.ifaName := by
  obtain ⟨kind, names⟩ := exists_kind ifa.ifaName
  have notBetter := mt better_iff.mpr (best.first ifa' best'.listed ip' best'.eligible)
  have notWorse := mt better_iff.mpr (best'.first ifa best.listed ip best.eligible)
  have same : getPriority ifa'.ifaName = getPriority ifa.ifaName := by omega
  exact ⟨kind, names, getPriority_eq_iff.mp (same.trans names.priority)⟩

theorem failure_of_perm {entries listed : List IfAddrs} (perm : listed.Perm entries) :
    failure listed = failure entries := by
  have same : listed.filterMap readEntry = [] ↔ entries.filterMap readEntry = [] := by
    have read := perm.filterMap readEntry
    constructor
    · intro empty
      rw [empty] at read
      exact read.nil_eq.symm
    · intro empty
      rw [empty] at read
      exact read.eq_nil
  simp only [failure, same]

/-- Another order of the entries, or another sort, changes at most which best entry is
chosen. -/
theorem primary_tied (std std' : Sorter ByPriority) {entries listed listed' : List IfAddrs}
    (perm : listed.Perm entries) (perm' : listed'.Perm entries) :
    Tied entries (getPrimaryIpAddress std (.ok listed))
      (getPrimaryIpAddress std' (.ok listed')) := by
  rcases getPrimaryIpAddress_cases std listed with ⟨none_, failed⟩ | ⟨ifa, ip, best, found⟩
  · rcases getPrimaryIpAddress_cases std' listed' with ⟨-, failed'⟩ | ⟨ifa', ip', best', -⟩
    · rw [failed, failed', failure_of_perm perm, failure_of_perm perm']
      exact .failed fun ifa mem => none_ ifa (perm.mem_iff.mpr mem)
    · have mem := perm.mem_iff.mpr (perm'.mem_iff.mp best'.listed)
      exact absurd best'.eligible (none_ ifa' mem ip')
  · rcases getPrimaryIpAddress_cases std' listed' with ⟨none_, -⟩ | ⟨ifa', ip', best', found'⟩
    · have mem := perm'.mem_iff.mpr (perm.mem_iff.mp best.listed)
      exact absurd best.eligible (none_ ifa mem ip)
    · rw [found, found']
      obtain ⟨kind, names, names'⟩ := (best.of_perm perm).same_kind (best'.of_perm perm')
      exact .chosen (best.of_perm perm) (best'.of_perm perm') names names'

/-- The choice does not show exactly when all best entries have one address. -/
theorem primary_agree_iff (entries : List IfAddrs) :
    (∀ (std std' : Sorter ByPriority) (listed listed' : List IfAddrs), listed.Perm entries →
        listed'.Perm entries →
        getPrimaryIpAddress std (.ok listed) = getPrimaryIpAddress std' (.ok listed')) ↔
      OneAddress entries := by
  have shown : OneAddress entries ↔ ∀ iface iface',
      Least ByPriority (entries.filterMap IfAddrs.candidate) iface →
      Least ByPriority (entries.filterMap IfAddrs.candidate) iface' →
      iface.ipAddress = iface'.ipAddress := by
    constructor
    · intro one iface iface' least least'
      obtain ⟨ifa, ip, best, rfl⟩ := least_iff.mp least
      obtain ⟨ifa', ip', best', rfl⟩ := least_iff.mp least'
      exact one ifa ip ifa' ip' best best'
    · intro one ifa ip ifa' ip' best best'
      exact one _ _ (least_iff.mpr ⟨ifa, ip, best, rfl⟩) (least_iff.mpr ⟨ifa', ip', best', rfl⟩)
  rw [shown, ← Sorter.heads_agree_iff]
  apply forall₄_congr
  intro std std' listed listed'
  apply forall₂_congr
  intro perm perm'
  rw [getPrimaryIpAddress_eq, getPrimaryIpAddress_eq, failure_of_perm perm, failure_of_perm perm']
  generalize (std.sort _).head?.map _ = first
  generalize (std'.sort _).head?.map _ = first'
  cases first <;> cases first' <;> simp

end SensorCore.Network
