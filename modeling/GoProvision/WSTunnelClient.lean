import GoProvision.Subscribers

/-!
# GoProvision — wstunnelclient's remote-console tunnel

wstunnelclient keeps one tunnel to the cloud while an application instance asks for a
remote console. On every `AppInstanceConfig` change, `scanAIConfigs` walks over all
configs: when some config has `RemoteConsole` and no tunnel runs, it tries the
management ports in order and each port's usable addresses in order, and starts the
tunnel through the first address whose `TestConnection` succeeds; when no config asks,
it stops the tunnel. The `DeviceNetworkStatus` handlers only record the status, with an
open question in the source: "do we need to trigger something like a reconnect?".

`InitializeTunnelClient`, `LookupProxy` and `TestConnection` are not in the source; they
are parameters (`TunnelNet`). `sub.GetAll()` ranges over a Go map, so the order of the
configs is arbitrary; `scanAIConfigs_perm` shows the scan does not depend on it.

Main results:

* `startTunnel_eq_some`, `startTunnel_eq_none` — a tunnel starts through a management
  port's usable address that passes `TestConnection`, and fails to start only when no
  such address exists.
* `scanAIConfigs_down_iff` — a config change leaves the tunnel down exactly when no config
  asks for a console, or when none ran and no usable management address connects,
  whatever order Go ranges over the configs in.
* `tunnel_runs_only_when_asked` — over every run, a running tunnel is the server's
  tunnel through an address and proxy `TestConnection` accepted, and some config asks for
  a remote console.
-/

namespace GoProvision

/-- `types.AppInstanceConfig`: the fields `scanAIConfigs` reads. -/
structure AppInstanceConfig where
  DisplayName : String := ""
  RemoteConsole : Bool := false
  deriving DecidableEq, Repr

/-- Not in the source: the usable addresses of port `ifname` that
`types.CountLocalAddrAnyNoLinkLocalIf` counts and `types.GetLocalAddrAnyNoLinkLocal`
picks from. -/
def localAddrsIf (s : DeviceNetworkStatus) (ifname : String) : List IP :=
  ((s.Ports.filter (·.IfName == ifname)).flatMap (·.usableAddrs)).map (·.Addr)

def CountLocalAddrAnyNoLinkLocalIf (s : DeviceNetworkStatus) (ifname : String) : Nat :=
  (localAddrsIf s ifname).length

def GetLocalAddrAnyNoLinkLocal (s : DeviceNetworkStatus) (pickNum : Nat) (ifname : String) :
    Except String IP :=
  match (localAddrsIf s ifname)[pickNum]? with
  | some ip => .ok ip
  | none => .error ("no address " ++ toString pickNum ++ " on " ++ ifname)

/-- What `scanAIConfigs` asks of the network: the tunnel URL `InitializeTunnelClient`
makes for the server, `zedcloud.LookupProxy`, and whether `TestConnection` from a local
address through a proxy succeeds. -/
structure TunnelNet where
  tunnelURL : String → String
  LookupProxy : DeviceNetworkStatus → String → String → Option String
  TestConnection : Option String → IP → Bool

/-- A started `zedcloud.WSTunnelClient`: its tunnel URL, and the port, local address and
proxy of the connection `TestConnection` made. -/
structure TunnelClient where
  Tunnel : String
  ifname : String
  localAddr : IP
  proxyURL : Option String
  deriving DecidableEq, Repr

/-- `wstunnelclientContext` with its `AppInstanceConfig` collection, key by key. -/
structure WstunnelclientContext where
  serverName : String := ""
  wstunnelclient : Option TunnelClient := none
  dnsContext : DNSContext := {}
  aiConfigs : List (String × AppInstanceConfig) := []
  deriving DecidableEq, Repr

namespace WSTunnelClient

variable (net : TunnelNet)

/-- The retry loop on one port: the first local address, `retryCount` from 0, through
which `TestConnection` succeeds, with the proxy it used. -/
def connectPort (s : DeviceNetworkStatus) (destURL ifname : String) (addrCount : Nat) :
    Option (IP × Option String) :=
  (List.range addrCount).findSome? fun retryCount =>
    match GetLocalAddrAnyNoLinkLocal s retryCount ifname with
    | .error _ => none
    | .ok localAddr =>
      let proxyURL := net.LookupProxy s ifname destURL
      if net.TestConnection proxyURL localAddr then some (localAddr, proxyURL) else none

/-- The port loop of `scanAIConfigs`: the first management port with a usable address
that connects gives the tunnel it starts. -/
def startTunnel (serverName : String) (s : DeviceNetworkStatus) : Option TunnelClient :=
  s.Ports.findSome? fun port =>
    let ifname := port.IfName
    if IsMgmtPort s ifname then
      let destURL := net.tunnelURL serverName
      let addrCount := CountLocalAddrAnyNoLinkLocalIf s ifname
      if addrCount = 0 then none
      else (connectPort net s destURL ifname addrCount).map fun (localAddr, proxyURL) =>
        ⟨destURL, ifname, localAddr, proxyURL⟩
    else none

/-- `isTunnelRequired`, folded over the configs as `scanAIConfigs` does. -/
def isTunnelRequired (items : List AppInstanceConfig) : Bool :=
  items.foldl (fun isTunnelRequired config => config.RemoteConsole || isTunnelRequired) false

/-- `scanAIConfigs` over the configs `GetAll` returns. -/
def scanAIConfigs (ctx : WstunnelclientContext) (items : List AppInstanceConfig) :
    WstunnelclientContext :=
  if isTunnelRequired items then
    match ctx.wstunnelclient with
    | some _ => ctx
    | none =>
      { ctx with wstunnelclient := startTunnel net ctx.serverName ctx.dnsContext.deviceNetworkStatus }
  else { ctx with wstunnelclient := none }

/-- An event of wstunnelclient's main loop. -/
inductive TunnelEvent
  | dns (d : DNSDelivery)
  | aiModify (key : String) (config : AppInstanceConfig)
  | aiDelete (key : String)
  deriving DecidableEq, Repr

/-- Not in the source: the subscription's collection after a change, before the handler
runs. -/
def aiConfigsAfter (cs : List (String × AppInstanceConfig)) :
    TunnelEvent → List (String × AppInstanceConfig)
  | .aiModify key config => cs.filter (·.1 ≠ key) ++ [(key, config)]
  | .aiDelete key => cs.filter (·.1 ≠ key)
  | .dns _ => cs

/-- One event: a status delivery goes to the `DNSContext`; a config change updates the
collection and runs `handleAppInstanceConfigModify` or `handleAppInstanceConfigDelete`,
both `scanAIConfigs`. -/
def tunnelStep (ctx : WstunnelclientContext) : TunnelEvent → WstunnelclientContext
  | .dns d => { ctx with dnsContext := handleDNS ctx.dnsContext d }
  | e => scanAIConfigs net { ctx with aiConfigs := aiConfigsAfter ctx.aiConfigs e }
      (aiConfigsAfter ctx.aiConfigs e |>.map (·.2))

def tunnelRun (ctx : WstunnelclientContext) (evs : List TunnelEvent) : WstunnelclientContext :=
  evs.foldl (tunnelStep net) ctx

/-! ## The scan -/

theorem foldl_isTunnelRequired (items : List AppInstanceConfig) (acc : Bool) :
    items.foldl (fun isTunnelRequired config => config.RemoteConsole || isTunnelRequired) acc =
      (acc || items.any (·.RemoteConsole)) := by
  induction items generalizing acc with
  | nil => simp
  | cons c cs ih => rw [List.foldl_cons, ih, List.any_cons]; cases acc <;> simp [Bool.or_comm]

/-- A tunnel is required when some config asks for a remote console, whatever order the
map gives them in. -/
theorem isTunnelRequired_eq_any (items : List AppInstanceConfig) :
    isTunnelRequired items = items.any (·.RemoteConsole) := by
  simp [isTunnelRequired, foldl_isTunnelRequired]

/-- The scan gives the same result in every order Go ranges over the collection in. -/
theorem scanAIConfigs_perm (ctx : WstunnelclientContext) {items items' : List AppInstanceConfig}
    (h : items.Perm items') : scanAIConfigs net ctx items = scanAIConfigs net ctx items' := by
  have : isTunnelRequired items = isTunnelRequired items' := by
    rw [isTunnelRequired_eq_any, isTunnelRequired_eq_any, Bool.eq_iff_iff, List.any_eq_true,
      List.any_eq_true]
    exact ⟨fun ⟨c, hc, hr⟩ => ⟨c, h.subset hc, hr⟩, fun ⟨c, hc, hr⟩ => ⟨c, h.symm.subset hc, hr⟩⟩
  simp only [scanAIConfigs, this]

/-- What `scanAIConfigs` does with the tunnel. -/
theorem scanAIConfigs_wstunnelclient (ctx : WstunnelclientContext)
    (items : List AppInstanceConfig) :
    (scanAIConfigs net ctx items).wstunnelclient =
      if items.any (·.RemoteConsole) then
        ctx.wstunnelclient.or (startTunnel net ctx.serverName ctx.dnsContext.deviceNetworkStatus)
      else none := by
  unfold scanAIConfigs
  rw [← isTunnelRequired_eq_any]
  split
  · split <;> simp_all
  · rfl

/-- The server, the configs and the status stay as they are; only the tunnel changes. -/
theorem scanAIConfigs_frame (ctx : WstunnelclientContext) (items : List AppInstanceConfig) :
    (scanAIConfigs net ctx items).serverName = ctx.serverName ∧
      (scanAIConfigs net ctx items).aiConfigs = ctx.aiConfigs ∧
      (scanAIConfigs net ctx items).dnsContext = ctx.dnsContext := by
  unfold scanAIConfigs
  split
  · split <;> exact ⟨rfl, rfl, rfl⟩
  · exact ⟨rfl, rfl, rfl⟩

theorem tunnelRun_serverName (ctx : WstunnelclientContext) (evs : List TunnelEvent) :
    (tunnelRun net ctx evs).serverName = ctx.serverName := by
  induction evs generalizing ctx with
  | nil => rfl
  | cons e evs ih =>
    refine (ih _).trans ?_
    cases e with
    | dns d => rfl
    | _ => exact (scanAIConfigs_frame net _ _).1

/-- A connection found on a port is through one of its usable addresses, with the proxy
`LookupProxy` gives, and `TestConnection` succeeded. -/
theorem connectPort_eq_some {s : DeviceNetworkStatus} {destURL ifname : String} {n : Nat}
    {a : IP} {p : Option String} (h : connectPort net s destURL ifname n = some (a, p)) :
    a ∈ localAddrsIf s ifname ∧ p = net.LookupProxy s ifname destURL ∧
      net.TestConnection p a = true := by
  obtain ⟨i, -, hi⟩ := List.exists_of_findSome?_eq_some h
  cases hg : (localAddrsIf s ifname)[i]? with
  | none => simp [GetLocalAddrAnyNoLinkLocal, hg] at hi
  | some la =>
    simp only [GetLocalAddrAnyNoLinkLocal, hg] at hi
    split at hi
    · cases hi
      exact ⟨List.getElem?_mem hg, rfl, ‹_›⟩
    · cases hi

/-- Trying every usable address of a port finds none exactly when none connects. -/
theorem connectPort_eq_none_iff {s : DeviceNetworkStatus} {destURL ifname : String} :
    connectPort net s destURL ifname (CountLocalAddrAnyNoLinkLocalIf s ifname) = none ↔
      ∀ a ∈ localAddrsIf s ifname,
        net.TestConnection (net.LookupProxy s ifname destURL) a = false := by
  simp only [connectPort, CountLocalAddrAnyNoLinkLocalIf, GetLocalAddrAnyNoLinkLocal,
    List.findSome?_eq_none_iff, List.mem_range]
  constructor
  · intro h a ha
    obtain ⟨i, hi, rfl⟩ := List.getElem_of_mem ha
    simpa [List.getElem?_eq_getElem hi] using h i hi
  · intro h i hi
    simp [List.getElem?_eq_getElem hi, h _ (List.getElem_mem hi)]

/-- A tunnel starts through a usable address of a management port, with the proxy
`LookupProxy` gives, after `TestConnection` succeeded there. -/
theorem startTunnel_eq_some {serverName : String} {s : DeviceNetworkStatus} {t : TunnelClient}
    (h : startTunnel net serverName s = some t) :
    IsMgmtPort s t.ifname = true ∧ t.Tunnel = net.tunnelURL serverName ∧
      t.localAddr ∈ localAddrsIf s t.ifname ∧ t.proxyURL = net.LookupProxy s t.ifname t.Tunnel ∧
      net.TestConnection t.proxyURL t.localAddr = true := by
  obtain ⟨port, -, hp⟩ := List.exists_of_findSome?_eq_some h
  simp only at hp
  split at hp
  · split at hp
    · cases hp
    · obtain ⟨⟨a, p⟩, hc, rfl⟩ := Option.map_eq_some'.1 hp
      obtain ⟨ha, hpr, ht⟩ := connectPort_eq_some net hc
      exact ⟨‹_›, rfl, ha, hpr, ht⟩
  · cases hp

/-- A tunnel fails to start only when no usable address of a management port passes
`TestConnection`. -/
theorem startTunnel_eq_none {serverName : String} {s : DeviceNetworkStatus} :
    startTunnel net serverName s = none ↔
      ∀ port ∈ s.Ports, IsMgmtPort s port.IfName = true → ∀ a ∈ localAddrsIf s port.IfName,
        net.TestConnection (net.LookupProxy s port.IfName (net.tunnelURL serverName)) a =
          false := by
  simp only [startTunnel, List.findSome?_eq_none_iff]
  refine forall₂_congr fun port _ => ?_
  split
  · rename_i hm
    simp only [hm, true_implies]
    split
    · rename_i h0
      simp only [CountLocalAddrAnyNoLinkLocalIf, List.length_eq_zero] at h0
      simp [h0]
    · rw [Option.map_eq_none']
      exact connectPort_eq_none_iff net
  · simp_all

/-- One `AppInstanceConfig` change: the scan gives the same context in every order Go
ranges over the collection in, and it leaves the tunnel down exactly when no config asks
for a remote console, or when none was running and no usable address of a management port
passes `TestConnection`. -/
theorem scanAIConfigs_down_iff (ctx : WstunnelclientContext)
    {items items' : List AppInstanceConfig} (h : items.Perm items') :
    scanAIConfigs net ctx items = scanAIConfigs net ctx items' ∧
      ((scanAIConfigs net ctx items).wstunnelclient = none ↔
        (∀ c ∈ items, c.RemoteConsole = false) ∨
          ctx.wstunnelclient = none ∧ ∀ port ∈ ctx.dnsContext.deviceNetworkStatus.Ports,
            IsMgmtPort ctx.dnsContext.deviceNetworkStatus port.IfName = true →
            ∀ a ∈ localAddrsIf ctx.dnsContext.deviceNetworkStatus port.IfName,
              net.TestConnection (net.LookupProxy ctx.dnsContext.deviceNetworkStatus port.IfName
                (net.tunnelURL ctx.serverName)) a = false) := by
  refine ⟨scanAIConfigs_perm net ctx h, ?_⟩
  rw [scanAIConfigs_wstunnelclient, ← startTunnel_eq_none]
  split
  · next hany =>
    obtain ⟨c, hc, hr⟩ := List.any_eq_true.1 hany
    have hasked : ¬∀ c ∈ items, c.RemoteConsole = false := fun hall => by simp [hall c hc] at hr
    simp only [Option.or_eq_none, hasked, false_or]
  · next hany =>
    simp only [Bool.not_eq_true, List.any_eq_false] at hany
    exact iff_of_true rfl (.inl fun c hc => by simpa using hany c hc)

/-! ## Every run -/

/-- What a run keeps: a tunnel runs only while some config asks for a remote console, and
it is the server's tunnel, through an address and proxy `TestConnection` accepted. -/
structure TunnelInv (ctx : WstunnelclientContext) : Prop where
  asked : ctx.wstunnelclient.isSome → ∃ c ∈ ctx.aiConfigs, c.2.RemoteConsole = true
  tested : ∀ t, ctx.wstunnelclient = some t →
    t.Tunnel = net.tunnelURL ctx.serverName ∧ net.TestConnection t.proxyURL t.localAddr = true

theorem TunnelInv.init (serverName : String) : TunnelInv net { serverName } :=
  ⟨(fun h => by cases h), fun _ h => by cases h⟩

/-- A scan over the collection keeps the invariant, whatever the configs were before. -/
theorem TunnelInv.scan {ctx : WstunnelclientContext}
    (htested : ∀ t, ctx.wstunnelclient = some t →
      t.Tunnel = net.tunnelURL ctx.serverName ∧ net.TestConnection t.proxyURL t.localAddr = true) :
    TunnelInv net (scanAIConfigs net ctx (ctx.aiConfigs.map (·.2))) := by
  have hw := scanAIConfigs_wstunnelclient net ctx (ctx.aiConfigs.map (·.2))
  obtain ⟨hserver, hconfigs, -⟩ := scanAIConfigs_frame net ctx (ctx.aiConfigs.map (·.2))
  refine ⟨fun h => ?_, fun t ht => ?_⟩
  · rw [hconfigs]
    split at hw
    · obtain ⟨c, hc, hr⟩ := List.any_eq_true.1 ‹_›
      obtain ⟨x, hx, rfl⟩ := List.mem_map.1 hc
      exact ⟨x, hx, hr⟩
    · simp [hw] at h
  · rw [hserver]
    split at hw
    · rw [hw, Option.or_eq_some] at ht
      rcases ht with ht | ⟨-, ht⟩
      · exact htested t ht
      · obtain ⟨-, hurl, -, -, htest⟩ := startTunnel_eq_some net ht
        exact ⟨hurl, htest⟩
    · simp [hw] at ht

theorem TunnelInv.step {ctx : WstunnelclientContext} (hi : TunnelInv net ctx) (e : TunnelEvent) :
    TunnelInv net (tunnelStep net ctx e) := by
  cases e with
  | dns d => exact ⟨hi.asked, hi.tested⟩
  | aiModify key config =>
    exact @TunnelInv.scan net
      { ctx with aiConfigs := aiConfigsAfter ctx.aiConfigs (.aiModify key config) } hi.tested
  | aiDelete key =>
    exact @TunnelInv.scan net
      { ctx with aiConfigs := aiConfigsAfter ctx.aiConfigs (.aiDelete key) } hi.tested

theorem TunnelInv.run {ctx : WstunnelclientContext} (hi : TunnelInv net ctx) (evs : List TunnelEvent) :
    TunnelInv net (tunnelRun net ctx evs) := by
  induction evs generalizing ctx with
  | nil => exact hi
  | cons e evs ih => exact ih (hi.step net e)

/-! ## A console over `eth0` -/

/-- A network where every connection test succeeds, without proxies. -/
def openNet : TunnelNet :=
  { tunnelURL := fun server => "wss://" ++ server
    LookupProxy := fun _ _ _ => none
    TestConnection := fun _ _ => true }

/-- `eth0`, a management port, with the addresses `addrs`. -/
def eth0Status (addrs : List AddrInfo) : DeviceNetworkStatus :=
  { Ports := [{ IfName := "eth0", IsMgmt := true, AddrInfoList := addrs }] }

def lanAddr : AddrInfo := { Addr := ⟨[192, 168, 1, 10]⟩ }

/-- An application instance that asks for a remote console. -/
def consoleApp : AppInstanceConfig := { DisplayName := "app1", RemoteConsole := true }

/-- The first status, with `addrs` on `eth0`, then the console's config. -/
def consoleEvents (addrs : List AddrInfo) : List TunnelEvent :=
  [.dns (.modify "global" (eth0Status addrs)), .aiModify "app1" consoleApp]

/-- Over every run of wstunnelclient's loop, a running tunnel is the server's tunnel, went
through an address and proxy `TestConnection` accepted, and some application instance
asks for a remote console. -/
theorem tunnel_runs_only_when_asked (serverName : String) (evs : List TunnelEvent)
    (t : TunnelClient) (ht : (tunnelRun net { serverName } evs).wstunnelclient = some t) :
    (∃ c ∈ (tunnelRun net { serverName } evs).aiConfigs, c.2.RemoteConsole = true) ∧
      t.Tunnel = net.tunnelURL serverName ∧ net.TestConnection t.proxyURL t.localAddr = true := by
  have hi := (TunnelInv.init net serverName).run net evs
  obtain ⟨hurl, htest⟩ := hi.tested t ht
  rw [tunnelRun_serverName] at hurl
  exact ⟨hi.asked (by simp [ht]), hurl, htest⟩

/-- With a usable address on `eth0`, the console's config starts the tunnel there. -/
theorem tunnel_runs_only_when_asked_eth0 :
    (tunnelRun openNet { serverName := "zedcloud" } (consoleEvents [lanAddr])).wstunnelclient =
        some ⟨"wss://zedcloud", "eth0", lanAddr.Addr, none⟩ ∧
      (∃ c ∈ (tunnelRun openNet { serverName := "zedcloud" } (consoleEvents [lanAddr])).aiConfigs,
        c.2.RemoteConsole = true) ∧
      "wss://zedcloud" = openNet.tunnelURL "zedcloud" ∧
      openNet.TestConnection none lanAddr.Addr = true :=
  have h : (tunnelRun openNet { serverName := "zedcloud" } (consoleEvents [lanAddr])).wstunnelclient =
      some ⟨"wss://zedcloud", "eth0", lanAddr.Addr, none⟩ := by decide
  ⟨h, tunnel_runs_only_when_asked openNet "zedcloud" _ _ h⟩

/-- A console is asked for while `eth0` has no address: in either order of the two configs,
the tunnel stays down. -/
theorem scanAIConfigs_down_iff_eth0 :
    let ctx : WstunnelclientContext :=
      { serverName := "zedcloud", dnsContext := { deviceNetworkStatus := eth0Status [] } }
    [consoleApp, {}].Perm [{}, consoleApp] ∧
      (scanAIConfigs openNet ctx [consoleApp, {}] = scanAIConfigs openNet ctx [{}, consoleApp] ∧
        ((scanAIConfigs openNet ctx [consoleApp, {}]).wstunnelclient = none ↔
          (∀ c ∈ [consoleApp, {}], c.RemoteConsole = false) ∨
            ctx.wstunnelclient = none ∧ ∀ port ∈ ctx.dnsContext.deviceNetworkStatus.Ports,
              IsMgmtPort ctx.dnsContext.deviceNetworkStatus port.IfName = true →
              ∀ a ∈ localAddrsIf ctx.dnsContext.deviceNetworkStatus port.IfName,
                openNet.TestConnection (openNet.LookupProxy ctx.dnsContext.deviceNetworkStatus
                  port.IfName (openNet.tunnelURL ctx.serverName)) a = false)) ∧
      (scanAIConfigs openNet ctx [consoleApp, {}]).wstunnelclient = none :=
  ⟨by decide, scanAIConfigs_down_iff openNet _ (by decide), by decide⟩

end WSTunnelClient

end GoProvision
