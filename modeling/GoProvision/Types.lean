import GoProvision.Net.IP

/-!
# GoProvision — port configurations and network status

The values that flow between nim and its subscribers: the candidate port
configurations (`DevicePortConfig`, kept in a `DevicePortConfigList`) and the
materialized `DeviceNetworkStatus`. The declarations of the `types` package are not in
the source; the records below carry the fields the modelled functions read and write,
under the names the code uses. A `time.Time` is an `Int` of nanoseconds from Go's zero
time, a `time.Duration` an `Int` of nanoseconds.

Besides the records, the module holds `cmp.Equal` on statuses (the subscribers'
change test), the address counters of the `types` package the handlers call, and
`roundToMb`, which the agents' memory logging uses.

Main results:

* `DeviceNetworkStatus.cmpEqual_refl` — `cmp.Equal` is reflexive on statuses.
* `roundToMb_toNat` — `roundToMb` rounds bytes to megabytes from 523776 bytes up, and
  wraps to 0 for the last 512 values of a `uint64`.
-/

namespace GoProvision

/-- `time.Second`. -/
def Second : Int := 1000000000

/-- `ipinfo.IPInfo`: what the geolocation service reports for a source address. -/
structure IPInfo where
  IP : String := ""
  Hostname : String := ""
  City : String := ""
  Region : String := ""
  Country : String := ""
  Loc : String := ""
  Org : String := ""
  Postal : String := ""
  deriving DecidableEq, Repr

/-- `types.DhcpType`. -/
inductive DhcpType
  | DT_NOOP | DT_STATIC | DT_NONE | DT_Deprecated | DT_CLIENT
  deriving DecidableEq, Repr

/-- Not in the source: `types.NPT_HTTP`, the first `types.NetworkProxyType`. -/
def NPT_HTTP : Nat := 0

/-- Not in the source: `types.NPT_HTTPS`, the one after `NPT_HTTP`. -/
def NPT_HTTPS : Nat := 1

/-- `types.ProxyEntry`; `ProxyType` is its field `Type`, a `types.NetworkProxyType`. -/
structure ProxyEntry where
  ProxyType : Nat := NPT_HTTP
  Server : String := ""
  Port : Nat := 0
  deriving DecidableEq, Repr

/-- `types.ProxyConfig`. -/
structure ProxyConfig where
  Proxies : List ProxyEntry := []
  Exceptions : String := ""
  Pacfile : String := ""
  NetworkProxyEnable : Bool := false
  NetworkProxyURL : String := ""
  WpadURL : String := ""
  deriving DecidableEq, Repr

/-- `types.NetworkPortConfig`, with the fields of the embedded `NetworkXObjectConfig`. -/
structure NetworkPortConfig where
  IfName : String := ""
  Name : String := ""
  IsMgmt : Bool := false
  Free : Bool := false
  Dhcp : DhcpType := .DT_NOOP
  AddrSubnet : String := ""
  Gateway : IP := ⟨[]⟩
  DomainName : String := ""
  NtpServer : IP := ⟨[]⟩
  DnsServers : List IP := []
  ProxyConfig : ProxyConfig := {}
  deriving DecidableEq, Repr

/-- `types.DevicePortConfig`: one candidate. -/
structure DevicePortConfig where
  Version : Nat := 0
  Key : String := ""
  TimePriority : Int := 0
  LastFailed : Int := 0
  LastSucceeded : Int := 0
  LastError : String := ""
  Ports : List NetworkPortConfig := []
  deriving DecidableEq, Repr

/-- `types.DevicePortConfigList`: the candidates in priority order. -/
structure DevicePortConfigList where
  CurrentIndex : Int := 0
  PortConfigList : List DevicePortConfig := []
  deriving DecidableEq, Repr

/-- `DPCIsMgmt`: the first `DevicePortConfigVersion` with the `IsMgmt` flag. -/
def DPCIsMgmt : Nat := 1

/-- `types.AddrInfo`: an address of a port with its geolocation. -/
structure AddrInfo where
  Addr : IP := ⟨[]⟩
  Geo : IPInfo := {}
  LastGeoTimestamp : Int := 0
  deriving DecidableEq, Repr

/-- `types.NetworkPortStatus`. -/
structure NetworkPortStatus where
  IfName : String := ""
  Name : String := ""
  IsMgmt : Bool := false
  Free : Bool := false
  Dhcp : DhcpType := .DT_NOOP
  Subnet : IPNet := {}
  Gateway : IP := ⟨[]⟩
  DomainName : String := ""
  NtpServer : IP := ⟨[]⟩
  DnsServers : List IP := []
  AddrInfoList : List AddrInfo := []
  ProxyConfig : ProxyConfig := {}
  Error : String := ""
  ErrorTime : Int := 0
  deriving DecidableEq, Repr

/-- `types.DeviceNetworkStatus`; `Testing` marks a snapshot of a candidate still
under test. -/
structure DeviceNetworkStatus where
  Version : Nat := 0
  Testing : Bool := false
  Ports : List NetworkPortStatus := []
  deriving DecidableEq, Repr

/-! ## `cmp.Equal` -/

/-- `cmp.Equal` on two slices, element by element. -/
def listCmpEqual {α : Type} (eq : α → α → Bool) : List α → List α → Bool
  | [], [] => true
  | a :: as, b :: bs => eq a b && listCmpEqual eq as bs
  | _, _ => false

/-- `cmp.Equal` on addresses: `net.IP` and `time.Time` by their `Equal` methods. -/
def AddrInfo.cmpEqual (a b : AddrInfo) : Bool :=
  a.Addr.Equal b.Addr && a.Geo == b.Geo && a.LastGeoTimestamp == b.LastGeoTimestamp

def NetworkPortStatus.cmpEqual (a b : NetworkPortStatus) : Bool :=
  a.IfName == b.IfName && a.Name == b.Name && a.IsMgmt == b.IsMgmt && a.Free == b.Free &&
    a.Dhcp == b.Dhcp && a.Subnet.IP.Equal b.Subnet.IP && a.Subnet.Mask == b.Subnet.Mask &&
    a.Gateway.Equal b.Gateway && a.DomainName == b.DomainName &&
    a.NtpServer.Equal b.NtpServer && listCmpEqual IP.Equal a.DnsServers b.DnsServers &&
    listCmpEqual AddrInfo.cmpEqual a.AddrInfoList b.AddrInfoList &&
    a.ProxyConfig == b.ProxyConfig && a.Error == b.Error && a.ErrorTime == b.ErrorTime

def DeviceNetworkStatus.cmpEqual (a b : DeviceNetworkStatus) : Bool :=
  a.Version == b.Version && a.Testing == b.Testing &&
    listCmpEqual NetworkPortStatus.cmpEqual a.Ports b.Ports

theorem listCmpEqual_refl {α : Type} {eq : α → α → Bool} (h : ∀ a, eq a a = true) :
    ∀ l : List α, listCmpEqual eq l l = true
  | [] => rfl
  | a :: as => by simp [listCmpEqual, h a, listCmpEqual_refl h as]

/-- Slices equal for `cmp.Equal` agree on whatever the element test preserves. -/
theorem listCmpEqual_map {α β : Type} {eq : α → α → Bool} {f : α → β}
    (hf : ∀ a b, eq a b = true → f a = f b) :
    ∀ {l l' : List α}, listCmpEqual eq l l' = true → l.map f = l'.map f
  | [], [], _ => rfl
  | a :: as, b :: bs, h => by
    simp only [listCmpEqual, Bool.and_eq_true] at h
    rw [List.map_cons, List.map_cons, hf a b h.1, listCmpEqual_map hf h.2]
  | [], _ :: _, h | _ :: _, [], h => nomatch h

theorem AddrInfo.cmpEqual_refl (a : AddrInfo) : a.cmpEqual a = true := by
  simp [AddrInfo.cmpEqual, IP.Equal_refl]

theorem NetworkPortStatus.cmpEqual_refl (a : NetworkPortStatus) : a.cmpEqual a = true := by
  simp [NetworkPortStatus.cmpEqual, IP.Equal_refl, listCmpEqual_refl IP.Equal_refl,
    listCmpEqual_refl AddrInfo.cmpEqual_refl]

theorem DeviceNetworkStatus.cmpEqual_refl (a : DeviceNetworkStatus) : a.cmpEqual a = true := by
  simp [DeviceNetworkStatus.cmpEqual, listCmpEqual_refl NetworkPortStatus.cmpEqual_refl]

/-! ## Address counters of the `types` package -/

/-- The addresses of a port that count as usable: those that are not link-local. -/
def NetworkPortStatus.usableAddrs (p : NetworkPortStatus) : List AddrInfo :=
  p.AddrInfoList.filter fun ai => !ai.Addr.IsLinkLocalUnicast

/-- Modelled from the spec: `types.CountLocalAddrAnyNoLinkLocal` (absent from the
source) counts the addresses of all ports that are not link-local, "link-local-only
addresses never count as usable". -/
def CountLocalAddrAnyNoLinkLocal (s : DeviceNetworkStatus) : Nat :=
  (s.Ports.flatMap (·.usableAddrs)).length

/-- Modelled from the spec: `types.GetMgmtPortsFree` (absent from the source), the
names of the free management ports; the rotation argument is always `0` here. -/
def GetMgmtPortsFree (s : DeviceNetworkStatus) : List String :=
  (s.Ports.filter fun p => p.IsMgmt && p.Free).map (·.IfName)

/-- Modelled from the spec: `types.CountLocalAddrFreeNoLinkLocalIf` (absent from the
source), the usable addresses of the free management port named `ifname`. -/
def CountLocalAddrFreeNoLinkLocalIf (s : DeviceNetworkStatus) (ifname : String) : Nat :=
  ((s.Ports.filter fun p => p.IsMgmt && p.Free && p.IfName == ifname).flatMap
    (·.usableAddrs)).length

/-- Modelled from the spec: `types.IsMgmtPort` (absent from the source). -/
def IsMgmtPort (s : DeviceNetworkStatus) (ifname : String) : Bool :=
  s.Ports.any fun p => p.IsMgmt && p.IfName == ifname

/-- Not in the source: `types.IsFreeMgmtPort`, whether `ifname` is one of the free
management ports `GetMgmtPortsFree` lists. -/
def IsFreeMgmtPort (s : DeviceNetworkStatus) (ifname : String) : Bool :=
  s.Ports.any fun p => p.IsMgmt && p.Free && p.IfName == ifname

@[simp] theorem CountLocalAddrAnyNoLinkLocal_empty :
    CountLocalAddrAnyNoLinkLocal {} = 0 := rfl

/-- The count is zero exactly when no port has a usable address. -/
theorem CountLocalAddrAnyNoLinkLocal_eq_zero (s : DeviceNetworkStatus) :
    CountLocalAddrAnyNoLinkLocal s = 0 ↔
      ∀ p ∈ s.Ports, ∀ ai ∈ p.AddrInfoList, ai.Addr.IsLinkLocalUnicast = true := by
  rw [CountLocalAddrAnyNoLinkLocal, List.length_eq_zero, List.flatMap_eq_nil_iff]
  simp [NetworkPortStatus.usableAddrs, List.filter_eq_nil_iff]

theorem NetworkPortStatus.cmpEqual_addrs {p q : NetworkPortStatus} (h : p.cmpEqual q = true) :
    listCmpEqual AddrInfo.cmpEqual p.AddrInfoList q.AddrInfoList = true := by
  by_contra hne
  simp [NetworkPortStatus.cmpEqual, hne] at h

theorem NetworkPortStatus.cmpEqual_usableAddrs_length {p q : NetworkPortStatus}
    (h : p.cmpEqual q = true) : p.usableAddrs.length = q.usableAddrs.length := by
  have hm := listCmpEqual_map (f := fun ai : AddrInfo => ai.Addr.IsLinkLocalUnicast)
    (fun a b hab => IP.IsLinkLocalUnicast_of_Equal (by
      simp only [AddrInfo.cmpEqual, Bool.and_eq_true] at hab; exact hab.1.1)) (cmpEqual_addrs h)
  simp only [NetworkPortStatus.usableAddrs, ← List.countP_eq_length_filter]
  simpa [List.countP_map, Function.comp_def] using congrArg (List.countP fun b : Bool => !b) hm

/-- Statuses equal for `cmp.Equal` have as many usable addresses: `IP.Equal` keeps an
address link-local or not. -/
theorem DeviceNetworkStatus.cmpEqual_count {a b : DeviceNetworkStatus} (h : a.cmpEqual b = true) :
    CountLocalAddrAnyNoLinkLocal a = CountLocalAddrAnyNoLinkLocal b := by
  have hp : listCmpEqual NetworkPortStatus.cmpEqual a.Ports b.Ports = true := by
    by_contra hne
    simp [DeviceNetworkStatus.cmpEqual, hne] at h
  have hm := listCmpEqual_map (f := fun p : NetworkPortStatus => p.usableAddrs.length)
    (fun _ _ => NetworkPortStatus.cmpEqual_usableAddrs_length) hp
  simp only [CountLocalAddrAnyNoLinkLocal, List.flatMap_def, List.length_flatten, List.map_map,
    Function.comp_def, hm]

/-- `types.LedBlinkCounter`. -/
structure LedBlinkCounter where
  BlinkCounter : Int := 0
  deriving DecidableEq, Repr

/-! ## Memory statistics -/

/-- `roundToMb`: bytes to megabytes, rounded to kilobytes first. -/
def roundToMb (b : UInt64) : UInt64 :=
  let kb := (b + 512) / 1024
  let mb := (kb + 512) / 1024
  mb

theorem UInt64.toNat_add_mod (a b : UInt64) :
    (a + b).toNat = (a.toNat + b.toNat) % UInt64.size := rfl

/-- The two roundings add up: `roundToMb` is `(b + 524800) / 2^20`, so 523776 bytes, less
than half a megabyte, already count as one; and `b + 512` wraps for the last 512 values
of a `uint64`, which give 0. -/
theorem roundToMb_toNat (b : UInt64) :
    (roundToMb b).toNat =
      if b.toNat + 512 < UInt64.size then (b.toNat + 512 + 512 * 1024) / (1024 * 1024) else 0 := by
  have hb := b.toNat_lt_size
  have h512 : (512 : UInt64).toNat = 512 := rfl
  have h1024 : (1024 : UInt64).toNat = 1024 := rfl
  simp only [roundToMb, UInt64.toNat_div, UInt64.toNat_add_mod, h512, h1024, UInt64.size] at hb ⊢
  split <;> omega

example : roundToMb 523776 = 1 := by decide

end GoProvision
