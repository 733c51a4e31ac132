import GoProvision.DeviceNetwork.AddrCache

/-!
# GoProvision — materializing a DeviceNetworkStatus

`MakeDeviceNetworkStatus` turns the candidate in use into the status nim publishes: one
`NetworkPortStatus` per configured port, with the port's addresses read from the address
cache, its DHCP and proxy information, and the geolocation of each address, copied
forward from the old status or looked up again by `UpdateDeviceNetworkGeo`. What the
function reads besides its arguments (the interface directory, `net.ParseCIDR`, dhcpcd
and the proxy fetcher) is a `StatusEnv`; the clock and the geolocation service are
arguments of their own, since they are what may differ between two calls.

Main results:

* `MakeDeviceNetworkStatus_missing_port_unmarked` — a port whose `IfName` does not
  resolve is published with no error, and the function returns no error: the loop's
  `ifindex, err :=` declares an `err` of its own.
* `MakeDeviceNetworkStatus_eraseVolatile_eq` — apart from geolocation and error times,
  the status depends neither on the old status, nor on the clock, nor on the service.
* `UpdateDeviceNetworkGeo_waits_after_change` — once a call has changed an address's
  geolocation at `t`, no later call with limit `R` asks about it before `t + R`.
-/

namespace GoProvision

/-! ## Generated candidates -/

/-- `time.Unix` seconds of Go's zero time. -/
def unixToInternal : Int := 62135596800

/-- `time.Unix(sec, nsec)`. -/
def timeUnix (sec nsec : Int) : Int := (sec + unixToInternal) * Second + nsec

/-- `makeDevicePortConfig`: a DHCP management port for each name, free when listed in
`free`. -/
def makeDevicePortConfig (ports free : List String) : DevicePortConfig :=
  { Version := DPCIsMgmt,
    Ports := ports.map fun u =>
      { IfName := u, Free := free.contains u, IsMgmt := true, Name := u, Dhcp := .DT_CLIENT } }

/-- `MakeDevicePortConfig`, from the `Uplink` and `FreeUplinks` of a
`DeviceNetworkConfig`. -/
def MakeDevicePortConfig (Uplink FreeUplinks : List String) : DevicePortConfig :=
  { makeDevicePortConfig Uplink FreeUplinks with TimePriority := timeUnix 2 0 }

def LastResortDevicePortConfig (ports : List String) : DevicePortConfig :=
  { makeDevicePortConfig ports ports with TimePriority := timeUnix 0 0 }

/-- `IsProxyConfigEmpty`. -/
def IsProxyConfigEmpty (proxyConfig : ProxyConfig) : Bool :=
  proxyConfig.Proxies.length == 0 && proxyConfig.Exceptions == "" &&
    proxyConfig.Pacfile == "" && proxyConfig.NetworkProxyEnable == false &&
    proxyConfig.NetworkProxyURL == ""

/-! ## The collaborators -/

/-- What `MakeDeviceNetworkStatus` consults besides its arguments. `GetDhcpInfo` answers
the `DomainName` and `DnsServers` dhcpcd has for a port, `CheckAndGetNetworkProxy` the
port's `Pacfile`; either may fail instead. -/
structure StatusEnv where
  IfnameToIndex : String → Except String Int
  ifindexToAddrs : AddrCache
  ParseCIDR : String → Option IPNet
  GetDhcpInfo : NetworkPortStatus → Except String (String × List IP)
  CheckAndGetNetworkProxy : NetworkPortStatus → Except String String

/-! ## The first loop: one port -/

/-- The fields of a port status that are set from its configuration. -/
def portFromConfig (env : StatusEnv) (u : NetworkPortConfig) : NetworkPortStatus :=
  { IfName := u.IfName, Name := u.Name, IsMgmt := u.IsMgmt, Free := u.Free,
    ProxyConfig := u.ProxyConfig, Dhcp := u.Dhcp,
    Subnet := (env.ParseCIDR u.AddrSubnet).getD {}, Gateway := u.Gateway,
    DomainName := u.DomainName, NtpServer := u.NtpServer, DnsServers := u.DnsServers }

/-- The addresses of the port's ifindex, as `AddrInfo`s; none when the cache has none. -/
def addrInfosOf (env : StatusEnv) (ifindex : Int) : List AddrInfo :=
  match IfindexToAddrs env.ifindexToAddrs ifindex with
  | .ok addrs => addrs.map fun addr => { Addr := addr.IP }
  | .error _ => []

/-- What the answer of `GetDhcpInfo` does to the port. -/
def applyDhcpInfo (now : Int) (p : NetworkPortStatus) :
    Except String (String × List IP) → NetworkPortStatus
  | .ok (domainName, dnsServers) => { p with DomainName := domainName, DnsServers := dnsServers }
  | .error e => { p with Error := "GetDhcpInfo failed " ++ e, ErrorTime := now }

/-- What the answer of `CheckAndGetNetworkProxy` does to the port. -/
def applyNetworkProxy (now : Int) (p : NetworkPortStatus) :
    Except String String → NetworkPortStatus
  | .ok pacfile => { p with ProxyConfig := { p.ProxyConfig with Pacfile := pacfile } }
  | .error e => { p with Error := "GetNetworkProxy failed " ++ e, ErrorTime := now }

@[simp] theorem applyDhcpInfo_AddrInfoList (now : Int) (p : NetworkPortStatus) r :
    (applyDhcpInfo now p r).AddrInfoList = p.AddrInfoList := by
  cases r <;> rfl

@[simp] theorem applyNetworkProxy_AddrInfoList (now : Int) (p : NetworkPortStatus) r :
    (applyNetworkProxy now p r).AddrInfoList = p.AddrInfoList := by
  cases r <;> rfl

/-- The body of the first loop of `MakeDeviceNetworkStatus`. A port whose `IfName` does
not resolve keeps its configured fields only: the error goes to the `err` that
`ifindex, err :=` declares inside the loop, and the loop goes on. -/
def makePortStatus (env : StatusEnv) (now : Int) (u : NetworkPortConfig) :
    NetworkPortStatus :=
  match env.IfnameToIndex u.IfName with
  | .error _ => portFromConfig env u
  | .ok ifindex =>
    let p := { portFromConfig env u with AddrInfoList := addrInfosOf env ifindex }
    let p := applyDhcpInfo now p (env.GetDhcpInfo p)
    applyNetworkProxy now p (env.CheckAndGetNetworkProxy p)

/-! ## Geolocation -/

/-- `lookupPortStatusAddr`: the first address equal to `addr` on a port named `ifname`. -/
def lookupPortStatusAddr (status : DeviceNetworkStatus) (ifname : String) (addr : IP) :
    Option AddrInfo :=
  (status.Ports.filter (·.IfName == ifname)).findSome? fun u =>
    u.AddrInfoList.find? (·.Addr.Equal addr)

/-- The second loop of `MakeDeviceNetworkStatus`: an address the old status has on the
same interface keeps its geolocation and its timestamp. -/
def preserveGeo (oldStatus : DeviceNetworkStatus) (u : NetworkPortStatus) :
    NetworkPortStatus :=
  { u with AddrInfoList := u.AddrInfoList.map fun ai =>
      match lookupPortStatusAddr oldStatus u.IfName ai.Addr with
      | some oai => { ai with Geo := oai.Geo, LastGeoTimestamp := oai.LastGeoTimestamp }
      | none => ai }

/-- What the inner loop of `UpdateDeviceNetworkGeo` does at one address: the address
after, whether `ipinfo.MyIPWithOptions` was called for it, and whether `change` was set. -/
structure GeoStep where
  ai : AddrInfo
  queried : Bool
  change : Bool
  deriving DecidableEq, Repr

/-- One address of `UpdateDeviceNetworkGeo`. A lookup that fails, or that reports the
global IP already stored, leaves the address as it is, timestamp included. -/
def geoStep (MyIPWithOptions : IP → Except String IPInfo) (now : Int) (timelimit : Int)
    (ai : AddrInfo) : GeoStep :=
  if ai.Addr.IsLinkLocalUnicast then ⟨ai, false, false⟩
  else if now - ai.LastGeoTimestamp < timelimit then ⟨ai, false, false⟩
  else match MyIPWithOptions ai.Addr with
    | .error _ => ⟨ai, true, false⟩
    | .ok info =>
      if info.IP = ai.Geo.IP then ⟨ai, true, false⟩
      else ⟨{ ai with Geo := info, LastGeoTimestamp := now }, true, true⟩

/-- Whether `UpdateDeviceNetworkGeo` passes over a port: a non-management port of a
status whose version has the `IsMgmt` flag. -/
def geoSkips (s : DeviceNetworkStatus) (u : NetworkPortStatus) : Bool :=
  decide (DPCIsMgmt ≤ s.Version) && !u.IsMgmt

/-- The steps `UpdateDeviceNetworkGeo` takes over the addresses of the port `u` of `s`. -/
def geoSteps (MyIPWithOptions : IP → Except String IPInfo) (now : Int) (timelimit : Int)
    (s : DeviceNetworkStatus) (u : NetworkPortStatus) : List GeoStep :=
  if geoSkips s u then u.AddrInfoList.map fun ai => ⟨ai, false, false⟩
  else u.AddrInfoList.map (geoStep MyIPWithOptions now timelimit)

/-- `UpdateDeviceNetworkGeo`: the status it leaves behind and the `change` it returns. -/
def UpdateDeviceNetworkGeo (MyIPWithOptions : IP → Except String IPInfo) (now : Int)
    (timelimit : Int) (globalStatus : DeviceNetworkStatus) : DeviceNetworkStatus × Bool :=
  let steps := geoSteps MyIPWithOptions now timelimit globalStatus
  ({ globalStatus with
      Ports := globalStatus.Ports.map fun u => { u with AddrInfoList := (steps u).map (·.ai) } },
    globalStatus.Ports.any fun u => (steps u).any (·.change))

/-! ## What one geolocation step can do -/

/-- What a step may do to an address: keep it, or restamp it at `now` when it sets
`change`. It never changes the address itself, and it asks the service only once
`timelimit` has passed since the address's timestamp. -/
structure GeoStep.Sound (now : Int) (timelimit : Int) (ai : AddrInfo) (st : GeoStep) :
    Prop where
  addr : st.ai.Addr = ai.Addr
  keep : st.change = false → st.ai = ai
  stamp : st.change = true → st.ai.LastGeoTimestamp = now
  wait : st.queried = true → timelimit ≤ now - ai.LastGeoTimestamp

theorem GeoStep.Sound.idle (now : Int) (timelimit : Int) (ai : AddrInfo) :
    GeoStep.Sound now timelimit ai ⟨ai, false, false⟩ :=
  ⟨rfl, fun _ => rfl, nofun, nofun⟩

theorem geoStep_sound (svc : IP → Except String IPInfo) (now : Int) (timelimit : Int)
    (ai : AddrInfo) : (geoStep svc now timelimit ai).Sound now timelimit ai := by
  unfold geoStep
  split
  · exact .idle ..
  split
  · exact .idle ..
  next hlate =>
    have hwait : timelimit ≤ now - ai.LastGeoTimestamp := by omega
    split
    · exact ⟨rfl, fun _ => rfl, nofun, fun _ => hwait⟩
    split
    · exact ⟨rfl, fun _ => rfl, nofun, fun _ => hwait⟩
    · exact ⟨rfl, nofun, fun _ => rfl, fun _ => hwait⟩

/-- The address at position `i` of port `ui`. -/
def addrAt (s : DeviceNetworkStatus) (ui i : Nat) : Option AddrInfo :=
  s.Ports[ui]?.bind fun u => u.AddrInfoList[i]?

/-- The step `UpdateDeviceNetworkGeo` takes at position `i` of port `ui`. -/
def geoStepAt (svc : IP → Except String IPInfo) (now : Int) (timelimit : Int)
    (s : DeviceNetworkStatus) (ui i : Nat) : Option GeoStep :=
  s.Ports[ui]?.bind fun u => (geoSteps svc now timelimit s u)[i]?

section GeoRun

variable {svc : IP → Except String IPInfo} {now : Int} {timelimit : Int}
  {s : DeviceNetworkStatus} {ui i : Nat}

theorem geoStepAt_sound {st : GeoStep} (h : geoStepAt svc now timelimit s ui i = some st) :
    ∃ ai, addrAt s ui i = some ai ∧ st.Sound now timelimit ai := by
  simp only [geoStepAt, addrAt, Option.bind_eq_some] at h ⊢
  obtain ⟨u, hu, hst⟩ := h
  unfold geoSteps at hst
  split at hst <;> simp only [List.getElem?_map, Option.map_eq_some'] at hst <;>
    obtain ⟨ai, hai, rfl⟩ := hst
  · exact ⟨ai, ⟨u, hu, hai⟩, .idle ..⟩
  · exact ⟨ai, ⟨u, hu, hai⟩, geoStep_sound ..⟩

theorem addrAt_UpdateDeviceNetworkGeo :
    addrAt (UpdateDeviceNetworkGeo svc now timelimit s).1 ui i =
      (geoStepAt svc now timelimit s ui i).map (·.ai) := by
  simp only [addrAt, geoStepAt, UpdateDeviceNetworkGeo, List.getElem?_map]
  cases s.Ports[ui]? <;> simp [List.getElem?_map]

/-- A call at a time no earlier than `T` keeps every timestamp at or above `T`. -/
theorem UpdateDeviceNetworkGeo_stamp_ge {T : Int} (hT : T ≤ now)
    (hs : ∀ ai, addrAt s ui i = some ai → T ≤ ai.LastGeoTimestamp) (ai : AddrInfo)
    (h : addrAt (UpdateDeviceNetworkGeo svc now timelimit s).1 ui i = some ai) :
    T ≤ ai.LastGeoTimestamp := by
  rw [addrAt_UpdateDeviceNetworkGeo, Option.map_eq_some'] at h
  obtain ⟨st, hst, rfl⟩ := h
  obtain ⟨ai, hai, hsound⟩ := geoStepAt_sound hst
  cases hc : st.change
  · rw [hsound.keep hc]; exact hs ai hai
  · rw [hsound.stamp hc]; exact hT

/-- `UpdateDeviceNetworkGeo` called with one service and one limit at each time of `ts`. -/
def geoRun (svc : IP → Except String IPInfo) (timelimit : Int) (s : DeviceNetworkStatus) :
    List Int → DeviceNetworkStatus
  | [] => s
  | t :: ts => geoRun svc timelimit (UpdateDeviceNetworkGeo svc t timelimit s).1 ts

theorem geoRun_append (s : DeviceNetworkStatus) (ts ts' : List Int) :
    geoRun svc timelimit s (ts ++ ts') = geoRun svc timelimit (geoRun svc timelimit s ts) ts' := by
  induction ts generalizing s with
  | nil => rfl
  | cons t ts ih => exact ih _

/-- Over a run of calls no earlier than `T`, timestamps stay at or above `T`. -/
theorem geoRun_stamp_ge {T : Int} : ∀ (ts : List Int) (s : DeviceNetworkStatus),
    (∀ t ∈ ts, T ≤ t) → (∀ ai, addrAt s ui i = some ai → T ≤ ai.LastGeoTimestamp) →
    ∀ ai, addrAt (geoRun svc timelimit s ts) ui i = some ai → T ≤ ai.LastGeoTimestamp
  | [], _, _, hs => hs
  | t :: ts, _, hts, hs => geoRun_stamp_ge ts _ (fun t' ht' => hts t' (.tail _ ht'))
      (UpdateDeviceNetworkGeo_stamp_ge (hts t (.head _)) hs)

end GeoRun

/-- Once the call at `t` of a run with non-decreasing times has changed an address's
geolocation, a later call asks the service about that address only from `t + timelimit`
on. -/
theorem UpdateDeviceNetworkGeo_waits_after_change (svc : IP → Except String IPInfo)
    (timelimit : Int) (s : DeviceNetworkStatus) (pre mid : List Int) (t t' : Int)
    (ui i : Nat) (st st' : GeoStep) (hclock : (pre ++ t :: mid ++ [t']).Pairwise (· ≤ ·))
    (hchange : geoStepAt svc t timelimit (geoRun svc timelimit s pre) ui i = some st)
    (hc : st.change = true)
    (hquery : geoStepAt svc t' timelimit (geoRun svc timelimit s (pre ++ t :: mid)) ui i = some st')
    (hq : st'.queried = true) :
    t + timelimit ≤ t' := by
  have hmid : ∀ m ∈ mid, t ≤ m :=
    (List.pairwise_cons.1 (List.pairwise_append.1 (List.pairwise_append.1 hclock).1).2.1).1
  have hstamped : ∀ ai, addrAt (UpdateDeviceNetworkGeo svc t timelimit
      (geoRun svc timelimit s pre)).1 ui i = some ai → t ≤ ai.LastGeoTimestamp := by
    intro ai h
    rw [addrAt_UpdateDeviceNetworkGeo, hchange, Option.map_some', Option.some_inj] at h
    obtain ⟨_, _, hsound⟩ := geoStepAt_sound hchange
    rw [← h, hsound.stamp hc]
  obtain ⟨ai, hai, hsound⟩ := geoStepAt_sound hquery
  rw [geoRun_append] at hai
  have := geoRun_stamp_ge mid _ hmid hstamped ai hai
  have := hsound.wait hq
  omega

/-! ## `MakeDeviceNetworkStatus` -/

/-- The status `MakeDeviceNetworkStatus` has built before its immediate geolocation check. -/
def materialize (env : StatusEnv) (now : Int) (globalConfig : DevicePortConfig)
    (oldStatus : DeviceNetworkStatus) : DeviceNetworkStatus :=
  { Version := globalConfig.Version,
    Ports := globalConfig.Ports.map fun u => preserveGeo oldStatus (makePortStatus env now u) }

/-- `MakeDeviceNetworkStatus`. The function-level `err` it returns is never assigned. -/
def MakeDeviceNetworkStatus (env : StatusEnv) (MyIPWithOptions : IP → Except String IPInfo)
    (now : Int) (globalConfig : DevicePortConfig) (oldStatus : DeviceNetworkStatus) :
    DeviceNetworkStatus × Option String :=
  ((UpdateDeviceNetworkGeo MyIPWithOptions now Second (materialize env now globalConfig oldStatus)).1,
    none)

/-! ## Ports that do not resolve -/

/-- An interface directory that knows only `eth0`, at ifindex 2 and with no address yet,
and a dhcpcd without a lease. -/
def noLeaseEnv : StatusEnv where
  IfnameToIndex n := if n = "eth0" then .ok 2 else .error ("Unknown ifname " ++ n)
  ifindexToAddrs := IfindexToAddrsInit
  ParseCIDR _ := none
  GetDhcpInfo _ := .error "no lease"
  CheckAndGetNetworkProxy _ := .ok ""

/-- A candidate naming a missing `eth9` next to `eth0`: `eth0`'s DHCP failure is recorded,
`eth9` is published without an error, and no error is returned. -/
theorem MakeDeviceNetworkStatus_missing_port_unmarked :
    let c : DevicePortConfig :=
      { Ports := [{ IfName := "eth0", Dhcp := .DT_CLIENT }, { IfName := "eth9" }] }
    let r := MakeDeviceNetworkStatus noLeaseEnv (fun _ => .error "offline") 100 c {}
    r.2 = none ∧
      r.1.Ports.map (fun p => (p.IfName, p.Error, p.ErrorTime)) =
        [("eth0", "GetDhcpInfo failed no lease", 100), ("eth9", "", 0)] := by
  decide

/-! ## What moves between two materializations -/

/-- An address without its geolocation and timestamp. -/
def AddrInfo.eraseGeo (ai : AddrInfo) : AddrInfo := { Addr := ai.Addr }

/-- A port without the geolocation of its addresses and without its error time. -/
def NetworkPortStatus.eraseVolatile (p : NetworkPortStatus) : NetworkPortStatus :=
  { p with AddrInfoList := p.AddrInfoList.map AddrInfo.eraseGeo, ErrorTime := 0 }

def DeviceNetworkStatus.eraseVolatile (s : DeviceNetworkStatus) : DeviceNetworkStatus :=
  { s with Ports := s.Ports.map NetworkPortStatus.eraseVolatile }

theorem geoSteps_eraseGeo (svc : IP → Except String IPInfo) (now timelimit : Int)
    (s : DeviceNetworkStatus) (u : NetworkPortStatus) :
    (geoSteps svc now timelimit s u).map (fun st => st.ai.eraseGeo) =
      u.AddrInfoList.map AddrInfo.eraseGeo := by
  unfold geoSteps
  split <;> simp [AddrInfo.eraseGeo, (geoStep_sound ..).addr]

theorem UpdateDeviceNetworkGeo_eraseVolatile (svc : IP → Except String IPInfo)
    (now timelimit : Int) (s : DeviceNetworkStatus) :
    (UpdateDeviceNetworkGeo svc now timelimit s).1.eraseVolatile = s.eraseVolatile := by
  simp [UpdateDeviceNetworkGeo, DeviceNetworkStatus.eraseVolatile,
    NetworkPortStatus.eraseVolatile, Function.comp_def, geoSteps_eraseGeo]

theorem preserveGeo_eraseVolatile (old : DeviceNetworkStatus) (u : NetworkPortStatus) :
    (preserveGeo old u).eraseVolatile = u.eraseVolatile := by
  simp only [preserveGeo, NetworkPortStatus.eraseVolatile, List.map_map]
  congr 2
  funext ai
  simp only [Function.comp_apply]
  split <;> rfl

section Materialize

variable (env : StatusEnv)

/-- The proxy fetcher's answer does not depend on the port's error time. -/
def StatusEnv.ProxyIgnoresErrorTime : Prop :=
  ∀ p t, env.CheckAndGetNetworkProxy { p with ErrorTime := t } = env.CheckAndGetNetworkProxy p

variable {env}

/-- Up to error times, a port is materialized the same way at any two clock times. -/
theorem makePortStatus_eraseVolatile (hproxy : env.ProxyIgnoresErrorTime) (now now' : Int)
    (u : NetworkPortConfig) :
    (makePortStatus env now u).eraseVolatile = (makePortStatus env now' u).eraseVolatile := by
  unfold makePortStatus
  split
  · rfl
  next ifindex _ =>
    generalize { portFromConfig env u with AddrInfoList := addrInfosOf env ifindex } = p
    have hsame : env.CheckAndGetNetworkProxy (applyDhcpInfo now p (env.GetDhcpInfo p)) =
        env.CheckAndGetNetworkProxy (applyDhcpInfo now' p (env.GetDhcpInfo p)) := by
      rw [← hproxy _ 0, ← hproxy (applyDhcpInfo now' _ _) 0]
      cases env.GetDhcpInfo p <;> rfl
    simp only [hsame]
    cases env.GetDhcpInfo p <;> cases env.CheckAndGetNetworkProxy _ <;> rfl

/-- Up to geolocation and error times, a materialized status is its candidate's ports as
`makePortStatus` builds them, at any clock time. -/
theorem MakeDeviceNetworkStatus_eraseVolatile (hproxy : env.ProxyIgnoresErrorTime)
    (svc : IP → Except String IPInfo) (now : Int) (c : DevicePortConfig)
    (old : DeviceNetworkStatus) :
    (MakeDeviceNetworkStatus env svc now c old).1.eraseVolatile =
      { Version := c.Version, Ports := c.Ports.map fun u => (makePortStatus env 0 u).eraseVolatile } := by
  simp only [MakeDeviceNetworkStatus, UpdateDeviceNetworkGeo_eraseVolatile]
  simp only [materialize, DeviceNetworkStatus.eraseVolatile, List.map_map, Function.comp_def,
    preserveGeo_eraseVolatile, makePortStatus_eraseVolatile hproxy now 0]

/-- Up to geolocation and error times, a materialized status depends neither on the old
status, nor on the clock, nor on the geolocation service. -/
theorem MakeDeviceNetworkStatus_eraseVolatile_eq (hproxy : env.ProxyIgnoresErrorTime)
    (svc svc' : IP → Except String IPInfo) (now now' : Int) (c : DevicePortConfig)
    (old old' : DeviceNetworkStatus) :
    (MakeDeviceNetworkStatus env svc now c old).1.eraseVolatile =
      (MakeDeviceNetworkStatus env svc' now' c old').1.eraseVolatile := by
  rw [MakeDeviceNetworkStatus_eraseVolatile hproxy, MakeDeviceNetworkStatus_eraseVolatile hproxy]

/-- Materializing a candidate again from the status it produced, at any later or earlier
time and with any geolocation answers, gives the same status up to geolocation and
error times. -/
theorem MakeDeviceNetworkStatus_rematerialize (hproxy : env.ProxyIgnoresErrorTime)
    (svc1 svc2 : IP → Except String IPInfo) (t1 t2 : Int) (c : DevicePortConfig)
    (s : DeviceNetworkStatus) :
    let s1 := (MakeDeviceNetworkStatus env svc1 t1 c s).1
    (MakeDeviceNetworkStatus env svc2 t2 c s1).1.eraseVolatile = s1.eraseVolatile :=
  MakeDeviceNetworkStatus_eraseVolatile_eq hproxy ..

end Materialize

theorem MakeDeviceNetworkStatus_rematerialize_noLease :
    noLeaseEnv.ProxyIgnoresErrorTime ∧
      let c : DevicePortConfig := { Ports := [{ IfName := "eth0", Dhcp := .DT_CLIENT }] }
      let s1 := (MakeDeviceNetworkStatus noLeaseEnv (fun _ => .error "offline") 100 c {}).1
      (MakeDeviceNetworkStatus noLeaseEnv (fun _ => .error "offline") 200 c s1).1.eraseVolatile =
        s1.eraseVolatile :=
  ⟨fun _ _ => rfl, MakeDeviceNetworkStatus_rematerialize (fun _ _ => rfl) _ _ 100 200 _ {}⟩

/-- A port whose DHCP lookup keeps failing gets a new `ErrorTime` at each
materialization, so two materializations of one candidate differ outside geolocation. -/
theorem MakeDeviceNetworkStatus_restamps_error_time :
    let c : DevicePortConfig := { Ports := [{ IfName := "eth0", Dhcp := .DT_CLIENT }] }
    let s1 := (MakeDeviceNetworkStatus noLeaseEnv (fun _ => .error "offline") 100 c {}).1
    let s2 := (MakeDeviceNetworkStatus noLeaseEnv (fun _ => .error "offline") 200 c s1).1
    s1.Ports.map (·.ErrorTime) = [100] ∧ s2.Ports.map (·.ErrorTime) = [200] := by
  decide

/-! ## Geolocation across calls -/

/-- An address that the copy-forward found in the old status carries the old timestamp. -/
theorem preserveGeo_stamp {old : DeviceNetworkStatus} {u : NetworkPortStatus} {ai oai : AddrInfo}
    (hai : ai ∈ (preserveGeo old u).AddrInfoList)
    (hold : lookupPortStatusAddr old u.IfName ai.Addr = some oai) :
    ai.LastGeoTimestamp = oai.LastGeoTimestamp := by
  simp only [preserveGeo, List.mem_map] at hai
  obtain ⟨a, -, rfl⟩ := hai
  cases h : lookupPortStatusAddr old u.IfName a.Addr with
  | none => simp [h] at hold
  | some oai' => simp_all

/-- `MakeDeviceNetworkStatus` asks the service about an address that the old status has on
the same interface only once a second has passed since the old status's timestamp. -/
theorem MakeDeviceNetworkStatus_waits_after_old (env : StatusEnv)
    (svc : IP → Except String IPInfo) (now : Int) (c : DevicePortConfig)
    (old : DeviceNetworkStatus) {ui i : Nat} {u : NetworkPortStatus} {st : GeoStep}
    {oai : AddrInfo} (hu : (materialize env now c old).Ports[ui]? = some u)
    (hst : geoStepAt svc now Second (materialize env now c old) ui i = some st)
    (hq : st.queried = true) (hold : lookupPortStatusAddr old u.IfName st.ai.Addr = some oai) :
    oai.LastGeoTimestamp + Second ≤ now := by
  obtain ⟨ai, hai, hsound⟩ := geoStepAt_sound hst
  simp only [addrAt, hu, Option.some_bind] at hai
  simp only [materialize, List.getElem?_map, Option.map_eq_some'] at hu
  obtain ⟨p, -, rfl⟩ := hu
  have := preserveGeo_stamp (List.getElem?_mem hai) (hsound.addr ▸ hold)
  have := hsound.wait hq
  omega

/-- The hold-off of geolocation lookups: within a run of `UpdateDeviceNetworkGeo` calls, an
address whose geolocation a call changed at `t` is not looked up again before
`t + timelimit`; and `MakeDeviceNetworkStatus`, which copies the old geolocation forward
and then checks with a one-second limit, looks up an address the old status has only a
second after the old timestamp. -/
theorem UpdateDeviceNetworkGeo_rate_limit :
    (∀ (svc : IP → Except String IPInfo) (timelimit : Int) (s : DeviceNetworkStatus)
      (pre mid : List Int) (t t' : Int) (ui i : Nat) (st st' : GeoStep),
      (pre ++ t :: mid ++ [t']).Pairwise (· ≤ ·) →
      geoStepAt svc t timelimit (geoRun svc timelimit s pre) ui i = some st → st.change = true →
      geoStepAt svc t' timelimit (geoRun svc timelimit s (pre ++ t :: mid)) ui i = some st' →
      st'.queried = true → t + timelimit ≤ t') ∧
    ∀ (env : StatusEnv) (svc : IP → Except String IPInfo) (now : Int) (c : DevicePortConfig)
      (old : DeviceNetworkStatus) (ui i : Nat) (u : NetworkPortStatus) (st : GeoStep)
      (oai : AddrInfo), (materialize env now c old).Ports[ui]? = some u →
      geoStepAt svc now Second (materialize env now c old) ui i = some st → st.queried = true →
      lookupPortStatusAddr old u.IfName st.ai.Addr = some oai →
      oai.LastGeoTimestamp + Second ≤ now :=
  ⟨UpdateDeviceNetworkGeo_waits_after_change,
    fun env svc now c old _ _ _ _ _ => MakeDeviceNetworkStatus_waits_after_old env svc now c old⟩

/-- A management port with one global address that was never geolocated. -/
def geoExample : DeviceNetworkStatus :=
  { Version := DPCIsMgmt,
    Ports := [{ IfName := "eth0", IsMgmt := true,
                AddrInfoList := [{ Addr := ⟨[192, 168, 1, 10]⟩ }] }] }

/-- A geolocation service that always answers the same global IP. -/
def geoService : IP → Except String IPInfo := fun _ => .ok { IP := "1.2.3.4" }

theorem UpdateDeviceNetworkGeo_rate_limit_geoExample :
    geoStepAt geoService 100 10 (geoRun geoService 10 geoExample []) 0 0 =
        some ⟨{ Addr := ⟨[192, 168, 1, 10]⟩, Geo := { IP := "1.2.3.4" },
                LastGeoTimestamp := 100 }, true, true⟩ ∧
      geoStepAt geoService 110 10 (geoRun geoService 10 geoExample [100]) 0 0 =
        some ⟨{ Addr := ⟨[192, 168, 1, 10]⟩, Geo := { IP := "1.2.3.4" },
                LastGeoTimestamp := 100 }, true, false⟩ ∧
      (100 : Int) + 10 ≤ 110 :=
  (fun h1 h2 => ⟨h1, h2, UpdateDeviceNetworkGeo_rate_limit.1 geoService 10 geoExample [] [] 100 110
    0 0 _ _ (by decide) h1 rfl h2 rfl⟩) (by decide) (by decide)

/-- Calls at 100, 110 and 111 with limit 10: the lookup at 110 succeeds with the IP already
stored, so the timestamp stays at 100 and the call at 111 asks the service again, before
110 + 10. -/
theorem UpdateDeviceNetworkGeo_requeries_unchanged_ip :
    (geoStepAt geoService 110 10 (geoRun geoService 10 geoExample [100]) 0 0).map
        (·.queried) = some true ∧
      (geoStepAt geoService 111 10 (geoRun geoService 10 geoExample [100, 110]) 0 0).map
        (·.queried) = some true := by
  decide

end GoProvision
