import GoProvision.DeviceNetwork.Status

/-!
# GoProvision — reacting to address changes

`AddrChange` feeds one netlink address event to the address cache and, when the cache
reports a change, runs `HandleAddressChange`. With no candidate under verification, the
handler materializes the status in use again and publishes it when it differs; with one
under verification, it decides whether to run the verification at once.

`DeviceNetworkContext` and the functions of `dpc.go` the handler hands over to
(`DoDNSUpdate`, `VerifyDevicePortConfig`) are not in the source: the context carries the
fields the modelled functions use, and the two functions are parameters.

Main results:

* `AddrChange_handles_iff_changed` — over the events a kernel table can emit, the handler
  runs exactly when the event's interface gained or lost an IP.
* `HandleAddressChange_pending_ignores_directory` — with a verification in progress, the
  decision reads `PendDNS` only, not the interface directory.
* `AddrChange_republishes_only_link` — an address event republishes, up to geolocation and
  error times, the ports of other links as they were, and the event's link with the
  cache's new addresses.
-/

namespace GoProvision

/-- Modelled from the spec: `DPCPending` (absent from the source), the candidate under
verification and the status materialized for it. -/
structure DPCPending where
  Inprogress : Bool := false
  PendDNS : DeviceNetworkStatus := {}
  deriving DecidableEq, Repr

/-- Modelled from the spec: `DeviceNetworkContext` (absent from the source), with the
fields the modelled functions read and write. `NetworkTestTimer` is the time the network
test timer fires at, `none` once it has fired and was not re-armed; `NetworkTestInterval`
is in seconds. -/
structure DeviceNetworkContext where
  DevicePortConfig : DevicePortConfig := {}
  DevicePortConfigList : DevicePortConfigList := {}
  NextDPCIndex : Int := 0
  DeviceNetworkStatus : DeviceNetworkStatus := {}
  Pending : DPCPending := {}
  NetworkTestInterval : Nat := 0
  NetworkTestTimer : Option Int := none
  deriving DecidableEq, Repr

/-- `checkIfAllDNSPortsHaveIPAddrs`: whether the status has a free management port and
each has an address that is not link-local. -/
def checkIfAllDNSPortsHaveIPAddrs (status : DeviceNetworkStatus) : Bool :=
  let mgmtPorts := GetMgmtPortsFree status
  !mgmtPorts.isEmpty && mgmtPorts.all fun port => 1 ≤ CountLocalAddrFreeNoLinkLocalIf status port

/-! ## A lease during verification

The scenario the results below are tried on: the last-resort candidate on `eth0` is under
verification when DHCP gives `eth0` its address. -/

/-- The interface directory once DHCP runs: `eth0` at ifindex 2, dhcpcd answering. -/
def dhcpEnv : StatusEnv where
  IfnameToIndex n := if n = "eth0" then .ok 2 else .error ("Unknown ifname " ++ n)
  ifindexToAddrs := IfindexToAddrsInit
  ParseCIDR _ := none
  GetDhcpInfo _ := .ok ("", [])
  CheckAndGetNetworkProxy _ := .ok ""

/-- The last-resort candidate on `eth0` under verification, materialized while `eth0` had
no address yet. -/
def pendingCtx : DeviceNetworkContext :=
  { DevicePortConfig := LastResortDevicePortConfig ["eth0"],
    Pending :=
      { Inprogress := true,
        PendDNS :=
          { Version := DPCIsMgmt,
            Ports := [{ IfName := "eth0", Name := "eth0", IsMgmt := true, Free := true,
                        Dhcp := .DT_CLIENT }] } } }

/-- DHCP gives `eth0` the address 192.168.1.10/24. -/
def dhcpAddrUpdate : AddrUpdate :=
  ⟨{ IP := ⟨[192, 168, 1, 10]⟩, Mask := [255, 255, 255, 0] }, 2, true⟩

/-- The same candidate once it is in use, with the status materialized for it while
`eth0` had no address. -/
def idleCtx : DeviceNetworkContext :=
  { DevicePortConfig := LastResortDevicePortConfig ["eth0"],
    DeviceNetworkStatus := (MakeDeviceNetworkStatus dhcpEnv (fun _ => .error "offline") 0
      (LastResortDevicePortConfig ["eth0"]) {}).1 }

section Handler

variable (env : StatusEnv) (MyIPWithOptions : IP → Except String IPInfo) (now : Int)
  (DoDNSUpdate VerifyDevicePortConfig : DeviceNetworkContext → DeviceNetworkContext)

/-- `HandleAddressChange`. In the branch for a candidate under verification, the status
materialized from the pending candidate is dropped, and the check reads `PendDNS`. -/
def HandleAddressChange (ctx : DeviceNetworkContext) : DeviceNetworkContext :=
  if !ctx.Pending.Inprogress then
    let status :=
      (MakeDeviceNetworkStatus env MyIPWithOptions now ctx.DevicePortConfig ctx.DeviceNetworkStatus).1
    if ctx.DeviceNetworkStatus ≠ status then
      DoDNSUpdate { ctx with DeviceNetworkStatus := status }
    else ctx
  else
    let dnStatus := ctx.Pending.PendDNS
    if checkIfAllDNSPortsHaveIPAddrs dnStatus then VerifyDevicePortConfig ctx else ctx

/-- `AddrChange` of devicenetwork: the event goes to the address cache, and a change runs
`HandleAddressChange` against the updated cache. -/
def AddrChange (ctx : DeviceNetworkContext) (change : AddrUpdate) :
    AddrCache × DeviceNetworkContext :=
  let changed := addrChangeCache env.ifindexToAddrs change
  (changed.2, if changed.1 then
      HandleAddressChange { env with ifindexToAddrs := changed.2 } MyIPWithOptions now DoDNSUpdate
        VerifyDevicePortConfig ctx
    else ctx)

variable {env MyIPWithOptions now DoDNSUpdate VerifyDevicePortConfig}

/-- Over the events a kernel table with one prefix per address can emit, `AddrChange`
keeps the cache of the address world and runs `HandleAddressChange` exactly when the
event's interface gained or lost an IP. -/
theorem AddrChange_handles_iff_changed {w : AddrWorld}
    (hw : AddrReachable AddrTable.SinglePrefix w) (hcache : env.ifindexToAddrs = w.cache)
    {u : AddrUpdate} (hu : w.table.CanEmit u) (ctx : DeviceNetworkContext) :
    (AddrChange env MyIPWithOptions now DoDNSUpdate VerifyDevicePortConfig ctx u).1 =
        (w.step u).2.cache ∧
      (IPSetChanged w.table (w.table.apply u) u.LinkIndex →
        (AddrChange env MyIPWithOptions now DoDNSUpdate VerifyDevicePortConfig ctx u).2 =
          HandleAddressChange { env with ifindexToAddrs := (w.step u).2.cache } MyIPWithOptions
            now DoDNSUpdate VerifyDevicePortConfig ctx) ∧
      (¬ IPSetChanged w.table (w.table.apply u) u.LinkIndex →
        (AddrChange env MyIPWithOptions now DoDNSUpdate VerifyDevicePortConfig ctx u).2 = ctx) := by
  obtain ⟨hs, hc⟩ := hw.complete
  have hflag := AddrWorld.changed_iff hw.inv hc hs hu
  simp only [AddrWorld.step] at hflag
  refine ⟨by simp [AddrChange, hcache, AddrWorld.step], fun h => ?_, fun h => ?_⟩
  · simp [AddrChange, hcache, AddrWorld.step, hflag.2 h]
  · simp [AddrChange, hcache, mt hflag.1 h]

/-- DHCP's address for `eth0` is an event the kernel table can emit from the start. -/
theorem AddrChange_handles_dhcpAddrUpdate :
    AddrReachable AddrTable.SinglePrefix AddrWorld.init ∧
      AddrWorld.init.table.CanEmit dhcpAddrUpdate ∧
      (AddrChange dhcpEnv (fun _ => .error "offline") 100 id id pendingCtx dhcpAddrUpdate).1 =
        (AddrWorld.init.step dhcpAddrUpdate).2.cache :=
  ⟨.init, by decide,
    (@AddrChange_handles_iff_changed dhcpEnv (fun _ => .error "offline") 100 id id AddrWorld.init
      .init rfl dhcpAddrUpdate (by decide) pendingCtx).1⟩

/-- With a verification in progress, `HandleAddressChange` runs the verification exactly
when `PendDNS` passes the check, whatever the interface directory, the clock and the
geolocation service. -/
theorem HandleAddressChange_pending_ignores_directory {ctx : DeviceNetworkContext}
    (h : ctx.Pending.Inprogress = true) :
    HandleAddressChange env MyIPWithOptions now DoDNSUpdate VerifyDevicePortConfig ctx =
      if checkIfAllDNSPortsHaveIPAddrs ctx.Pending.PendDNS then VerifyDevicePortConfig ctx
      else ctx := by
  simp [HandleAddressChange, h]

/-- A resolved port carries the addresses the cache holds for its ifindex. -/
theorem makePortStatus_addrs {env : StatusEnv} {c : NetworkPortConfig} {i : Int}
    (h : env.IfnameToIndex c.IfName = .ok i) (now : Int) :
    (makePortStatus env now c).AddrInfoList.map (·.Addr) =
      (cacheAt env.ifindexToAddrs i).map (·.IP) := by
  simp only [makePortStatus, h, applyNetworkProxy_AddrInfoList, applyDhcpInfo_AddrInfoList,
    addrInfosOf, IfindexToAddrs, cacheAt]
  cases env.ifindexToAddrs i <;> simp [Function.comp_def]

/-- A port whose interface is not the event's link is built the same way before and after
the event. -/
theorem makePortStatus_addrChange_other {env : StatusEnv} {u : AddrUpdate}
    {c : NetworkPortConfig} (hc : env.IfnameToIndex c.IfName ≠ .ok u.LinkIndex) (now : Int) :
    makePortStatus { env with ifindexToAddrs := (addrChangeCache env.ifindexToAddrs u).2 } now c =
      makePortStatus env now c := by
  unfold makePortStatus
  cases h : env.IfnameToIndex c.IfName with
  | error e => simp only [h]; rfl
  | ok i =>
    have hi : i ≠ u.LinkIndex := fun e => hc (by rw [h, e])
    simp only [h, addrInfosOf, IfindexToAddrs, addrChangeCache_other _ _ hi]
    rfl

/-- The port at index `i` of a status, up to geolocation and error time. -/
theorem getElem?_Ports_eraseVolatile (s : DeviceNetworkStatus) (i : Nat) :
    s.Ports[i]?.map NetworkPortStatus.eraseVolatile = s.eraseVolatile.Ports[i]? := by
  simp [DeviceNetworkStatus.eraseVolatile]

/-- An address event republishes only what changed on its link. When the status in use was
materialized from the candidate in use before the event, `AddrChange` leaves the context
alone, or publishes a status with the candidate's ports in which every port whose
interface resolves to another ifindex, or to none, is the port in use up to geolocation
and error time, and every port on the event's link has the cache's new addresses. -/
theorem AddrChange_republishes_only_link (hproxy : env.ProxyIgnoresErrorTime)
    {ctx : DeviceNetworkContext} (hidle : ctx.Pending.Inprogress = false)
    {svc' : IP → Except String IPInfo} {t' : Int} {old : DeviceNetworkStatus}
    (hprev : ctx.DeviceNetworkStatus =
      (MakeDeviceNetworkStatus env svc' t' ctx.DevicePortConfig old).1) (u : AddrUpdate) :
    let ctx' := (AddrChange env MyIPWithOptions now DoDNSUpdate VerifyDevicePortConfig ctx u).2
    ctx' = ctx ∨ ∃ status : DeviceNetworkStatus,
      ctx' = DoDNSUpdate { ctx with DeviceNetworkStatus := status } ∧
      status.Version = ctx.DeviceNetworkStatus.Version ∧
      status.Ports.length = ctx.DeviceNetworkStatus.Ports.length ∧
      ∀ (i : Nat) (c : NetworkPortConfig), ctx.DevicePortConfig.Ports[i]? = some c →
        (env.IfnameToIndex c.IfName ≠ .ok u.LinkIndex →
          status.Ports[i]?.map NetworkPortStatus.eraseVolatile =
            ctx.DeviceNetworkStatus.Ports[i]?.map NetworkPortStatus.eraseVolatile) ∧
        (env.IfnameToIndex c.IfName = .ok u.LinkIndex →
          status.Ports[i]?.map (fun p : NetworkPortStatus => p.AddrInfoList.map (·.Addr)) =
            some ((cacheAt (addrChangeCache env.ifindexToAddrs u).2 u.LinkIndex).map (·.IP))) := by
  intro ctx'
  simp only [ctx', AddrChange]
  split
  · simp only [HandleAddressChange, hidle, Bool.not_false, if_true]
    split
    · set env' := { env with ifindexToAddrs := (addrChangeCache env.ifindexToAddrs u).2 }
      set status := (MakeDeviceNetworkStatus env' MyIPWithOptions now ctx.DevicePortConfig
        ctx.DeviceNetworkStatus).1
      -- both statuses, up to volatile fields, are the candidate's ports as built
      have hnew := @MakeDeviceNetworkStatus_eraseVolatile env' hproxy MyIPWithOptions now
        ctx.DevicePortConfig ctx.DeviceNetworkStatus
      have hold := MakeDeviceNetworkStatus_eraseVolatile hproxy svc' t' ctx.DevicePortConfig old
      rw [← hprev] at hold
      refine .inr ⟨status, rfl, ?_, ?_, fun i c hc => ⟨fun ho => ?_, fun hl => ?_⟩⟩
      · exact (congrArg DeviceNetworkStatus.Version hnew).trans
          (congrArg DeviceNetworkStatus.Version hold).symm
      · have h1 := congrArg (fun s : DeviceNetworkStatus => s.Ports.length) hnew
        have h2 := congrArg (fun s : DeviceNetworkStatus => s.Ports.length) hold
        simp only [DeviceNetworkStatus.eraseVolatile, List.length_map] at h1 h2
        rw [h1, h2]
      · rw [getElem?_Ports_eraseVolatile, getElem?_Ports_eraseVolatile, hnew, hold]
        simp [hc, makePortStatus_addrChange_other ho]
      · have hp := congrArg (fun s : DeviceNetworkStatus => s.Ports[i]?.map
          fun p : NetworkPortStatus => p.AddrInfoList.map (·.Addr)) hnew
        simp only [DeviceNetworkStatus.eraseVolatile, NetworkPortStatus.eraseVolatile,
          List.getElem?_map, Option.map_map, Function.comp_def, List.map_map,
          AddrInfo.eraseGeo, hc, Option.map_some'] at hp
        rw [hp, @makePortStatus_addrs env' c u.LinkIndex hl 0]
    · exact .inl rfl
  · exact .inl rfl

/-- `idleCtx` with DHCP's address for `eth0`. -/
theorem AddrChange_republishes_only_link_dhcp :
    dhcpEnv.ProxyIgnoresErrorTime ∧ idleCtx.Pending.Inprogress = false ∧
      idleCtx.DeviceNetworkStatus = (MakeDeviceNetworkStatus dhcpEnv (fun _ => .error "offline") 0
        idleCtx.DevicePortConfig {}).1 ∧
      let ctx' := (AddrChange dhcpEnv (fun _ => .error "offline") 100 id id idleCtx
        dhcpAddrUpdate).2
      ctx' = idleCtx ∨ ∃ status : DeviceNetworkStatus,
        ctx' = id { idleCtx with DeviceNetworkStatus := status } ∧
        status.Version = idleCtx.DeviceNetworkStatus.Version ∧
        status.Ports.length = idleCtx.DeviceNetworkStatus.Ports.length ∧
        ∀ (i : Nat) (c : NetworkPortConfig), idleCtx.DevicePortConfig.Ports[i]? = some c →
          (dhcpEnv.IfnameToIndex c.IfName ≠ .ok dhcpAddrUpdate.LinkIndex →
            status.Ports[i]?.map NetworkPortStatus.eraseVolatile =
              idleCtx.DeviceNetworkStatus.Ports[i]?.map NetworkPortStatus.eraseVolatile) ∧
          (dhcpEnv.IfnameToIndex c.IfName = .ok dhcpAddrUpdate.LinkIndex →
            status.Ports[i]?.map (fun p : NetworkPortStatus => p.AddrInfoList.map (·.Addr)) =
              some ((cacheAt (addrChangeCache dhcpEnv.ifindexToAddrs dhcpAddrUpdate).2
                dhcpAddrUpdate.LinkIndex).map (·.IP))) :=
  ⟨fun _ _ => rfl, rfl, rfl, AddrChange_republishes_only_link (fun _ _ => rfl) rfl rfl dhcpAddrUpdate⟩

end Handler

/-- The address arrives while the candidate is under verification: the cache reports a
change and the candidate materialized from the new cache passes the check, but
`HandleAddressChange` checks the stale `PendDNS` and leaves the context as it was, for
every `DoDNSUpdate` and `VerifyDevicePortConfig`. -/
theorem AddrChange_misses_pending_address
    (DoDNSUpdate VerifyDevicePortConfig : DeviceNetworkContext → DeviceNetworkContext) :
    let offline : IP → Except String IPInfo := fun _ => .error "offline"
    let changed := addrChangeCache dhcpEnv.ifindexToAddrs dhcpAddrUpdate
    changed.1 = true ∧
      checkIfAllDNSPortsHaveIPAddrs (MakeDeviceNetworkStatus
        { dhcpEnv with ifindexToAddrs := changed.2 } offline 100 pendingCtx.DevicePortConfig
        pendingCtx.Pending.PendDNS).1 = true ∧
      AddrChange dhcpEnv offline 100 DoDNSUpdate VerifyDevicePortConfig pendingCtx
        dhcpAddrUpdate = (changed.2, pendingCtx) := by
  have hpend : pendingCtx.Pending.Inprogress = true := rfl
  have hstale : checkIfAllDNSPortsHaveIPAddrs pendingCtx.Pending.PendDNS = false := by decide
  refine ⟨by decide, by decide, ?_⟩
  simp only [AddrChange, show (addrChangeCache dhcpEnv.ifindexToAddrs dhcpAddrUpdate).1 = true
    by decide, if_true, HandleAddressChange_pending_ignores_directory hpend, hstale]
  rfl

end GoProvision
