import GoProvision.Subscribers
import GoProvision.DeviceNetwork.Status

/-!
# GoProvision — diag's report

diag prints a report on the device's connectivity whenever one of its three subscriptions
changes (`LedBlinkCounter`, `DeviceNetworkStatus`, `DevicePortConfigList`), once all three
have delivered: the hardware model and its files, a summary of the LED counter, which
`DevicePortConfig` is in use, each port's addresses, DNS servers, static configuration and
proxy, and for each management port with an address a DNS lookup of the controller, a ping
and a config get. Without `-f`, its loop stops at the first change after which all three
subscriptions have delivered.

A report is the list of its lines, each a `DiagLine` holding the values its format prints.
What diag asks the system (the clock, files, the resolver, the proxy lookup, the network's
answer to each get) is a `DiagEnv`; the network answers each attempt of a get, numbered by
its `retryCount`. The TLS configuration that the ping swaps for the google tests, and
restores after them, is not modelled.

Main results:

* `printPorts_tally` — the ports' loop counts the management ports and those that pass
  their three tests, and `passOtherPorts` stays 0.
* `printOutput_verdict` — every report ends with its verdict, a single line: PASS when
  every management port passed; the warning on non-management ports is never printed.
* `diagRun_one_report` — without `-f`, the loop stops at the first change after which
  the three subscriptions have delivered, and prints at most one report, the report of
  the state it stops in; nothing while they have not all delivered.
* `diagRun_silent_on_testing` — and none when the status that completes the three
  subscriptions is one under test.
* `WSTunnelClient.handleDNSModify_adopts_testing` — a `Testing` snapshot: ledmanager and
  diag keep the empty status, wstunnelclient adopts the snapshot.
-/

namespace GoProvision

/-! ## What diag prints and what it asks -/

/-- A line diag prints, with the values it formats; each docstring is the line's format in
the source. -/
inductive DiagLine
  /-- "INFO: updated diag information at %v" -/
  | updated (now : String)
  /-- "INFO: dmidecode model string %s overridden as %s" -/
  | modelOverridden (hardwareModel savedHardwareModel : String)
  /-- "ERROR: /config/hardwaremodel %s does not exist in /var/tmp/zededa/DeviceNetworkConfig" -/
  | savedModelNoDNC (savedHardwareModel : String)
  /-- "NOTE: Device is using /var/tmp/zededa/DeviceNetworkConfig/default.json" -/
  | usingDefaultDNC
  /-- "ERROR: /config/hardwaremodel %s does not exist in /var/tmp/zededa/AssignableAdapters" -/
  | savedModelNoAA (savedHardwareModel : String)
  /-- "NOTE: Device is using /var/tmp/zededa/AssignableAdapters/default.json" -/
  | usingDefaultAA
  /-- "INFO: dmidecode model %s does not exist in /var/tmp/zededa/DeviceNetworkConfig" -/
  | modelNoDNC (hardwareModel : String)
  /-- "INFO: dmidecode model %s does not exist in /var/tmp/zededa/AssignableAdapters" -/
  | modelNoAA (hardwareModel : String)
  /-- "INFO: selfRegister is still in progress" -/
  | selfRegisterInProgress
  /-- The summary of the LED counter, as `ledSummary` writes it. -/
  | summary (text : String)
  /-- "WARNING: Not using highest priority DevicePortConfig key %s due to %s" -/
  | notUsingHighest (key lastError : String)
  /-- "WARNING: Not using priority %d DevicePortConfig key %s due to %s" -/
  | notUsingPriority (i : Nat) (key lastError : String)
  /-- "INFO: Using priority %d DevicePortConfig key %s" -/
  | usingPriority (i : Nat) (key : String)
  /-- "INFO: Have %d backup DevicePortConfig" -/
  | backups (n : Int)
  /-- "INFO: Using highest priority DevicePortConfig key %s" -/
  | usingHighest (key : String)
  /-- "INFO: Have %d total ports. %d ports should be connected to EV controller" -/
  | totalPorts (numPorts numMgmtPorts : Nat)
  /-- "INFO: Port %s: %s" -/
  | portType (ifname typeStr : String)
  /-- "INFO: %s: IP address %s not geolocated" -/
  | notGeolocated (ifname : String) (addr : IP)
  /-- "INFO: %s: IP address %s geolocated to %+v" -/
  | geolocated (ifname : String) (addr : IP) (geo : IPInfo)
  /-- "INFO: %s: No IP address" -/
  | noIPAddress (ifname : String)
  /-- "INFO: %s: DNS servers: ", then "%s, " for each server -/
  | dnsServers (ifname : String) (servers : List IP)
  /-- "INFO: %s: Static IP subnet: %s" -/
  | staticSubnet (ifname : String) (subnet : IPNet)
  /-- "INFO: %s: Static IP router: %s" -/
  | staticRouter (ifname : String) (gateway : IP)
  /-- "INFO: %s: Static Domain Name: %s" -/
  | staticDomain (ifname domainName : String)
  /-- "INFO: %s: Static NTP server: %s" -/
  | staticNtp (ifname : String) (ntpServer : IP)
  /-- "INFO: %s: no http(s) proxy" -/
  | noProxy (ifname : String)
  /-- "INFO: %s: proxy exceptions %s" -/
  | proxyExceptions (ifname exceptions : String)
  /-- "ERROR: %s: from WPAD? %s" -/
  | wpadError (ifname err : String)
  /-- "WARNING: %s: WPAD enabled but found no URL" -/
  | wpadNoURL (ifname : String)
  /-- "INFO: %s: WPAD enabled found URL %s" -/
  | wpadFound (ifname url : String)
  /-- "INFO: %s: WPAD fetched from %s" -/
  | wpadFetched (ifname url : String)
  /-- "INFO: %s: Have PAC file len %d" -/
  | pacLen (ifname : String) (len : Nat)
  /-- "INFO: %s: PAC file:\n%s" -/
  | pacFile (ifname contents : String)
  /-- "INFO: %s: http proxy %s" -/
  | httpProxy (ifname proxy : String)
  /-- "INFO: %s: https proxy %s" -/
  | httpsProxy (ifname proxy : String)
  /-- "INFO: %s: not intended for EV controller; skipping those tests" -/
  | notIntended (ifname : String)
  /-- "WARNING: %s: No IP address to connect to EV controller" -/
  | noIPForController (ifname : String)
  /-- "ERROR: %s: DNS lookup of %s failed: %s" -/
  | lookupFailed (ifname serverName err : String)
  /-- "ERROR: %s: DNS lookup of %s returned no answers" -/
  | lookupNoAnswers (ifname serverName : String)
  /-- "INFO: %s: DNS lookup of %s returned %s" -/
  | lookupReturned (ifname serverName : String) (ip : IP)
  /-- "INFO: %s: Simulate DNS lookup failure" -/
  | simulateDnsFailure (ifname : String)
  /-- "ERROR: %s: ping failed to %s; trying google" -/
  | pingFailed (ifname serverNameAndPort : String)
  /-- "WARNING: %s: Can reach http://google.com but not https://%s" -/
  | reachHttpGoogle (ifname serverNameAndPort : String)
  /-- "ERROR: %s: Can't reach http://google.com; likely lack of Internet connectivity" -/
  | noHttpGoogle (ifname : String)
  /-- "WARNING: %s: Can reach https://google.com but not https://%s" -/
  | reachHttpsGoogle (ifname serverNameAndPort : String)
  /-- "ERROR: %s: Can't reach https://google.com; likely lack of Internet connectivity" -/
  | noHttpsGoogle (ifname : String)
  /-- "ERROR: %s: Exceeded %d retries for ping", and "for get config" -/
  | exceededRetries (ifname : String) (maxRetries : Nat) (what : String)
  /-- "INFO: %s: Simulate ping failure" -/
  | simulatePingFailure (ifname : String)
  /-- "ERROR: %s: LookupProxy failed: %s" -/
  | lookupProxyFailed (ifname err : String)
  /-- "INFO: %s: Using proxy %s to reach %s" -/
  | usingProxy (ifname proxyUrl requrl : String)
  /-- "ERROR: %s: get %s failed: %s" -/
  | getFailed (ifname requrl err : String)
  /-- "INFO: %s: %s StatusOK" -/
  | statusOK (ifname requrl : String)
  /-- "ERROR: %s: %s statuscode %d %s", with `http.StatusText` of the code -/
  | statusCode (ifname requrl : String) (code : Nat)
  /-- "ERRROR: %s: Received %s" (sic) -/
  | received (ifname contents : String)
  /-- "PASS: port %s fully connected to EV controller %s" -/
  | portPassed (ifname serverName : String)
  /-- "WARNING: %d non-management ports have connectivity to the EV controller. Is that
  intentional?" -/
  | otherPortsConnected (n : Nat)
  /-- "ERROR: No ports specified to have EV controller connectivity" -/
  | noMgmtPorts
  /-- "PASS: All ports specified to have EV controller connectivity passed test" -/
  | allPassed
  /-- "WARNING: %d out of %d ports specified to have EV controller connectivity passed
  test" -/
  | somePassed (passPorts mgmtPorts : Nat)

/-- What diag asks the system: the clock (as `time.RFC3339Nano` formats it), the hardware
model with (`GetHardwareModelOverride`) and without (`GetHardwareModelNoOverride`) its
override, which files exist (`os.Stat`), the resolver (`net.LookupIP`),
`zedcloud.LookupProxy`, the network's answer to attempt `retryCount` of a get
(`zedcloud.SendOnIntf`: an error, or the status code and the contents), base64 decoding,
and the `-D` and `-P` flags. -/
structure DiagEnv where
  now : String
  GetHardwareModelOverride : String
  GetHardwareModelNoOverride : String
  fileExists : String → Bool
  LookupIP : String → Except String (List IP)
  LookupProxy : DeviceNetworkStatus → String → String → Except String (Option String)
  SendOnIntf : String → String → Nat → Except String (Nat × String)
  DecodeString : String → Except String String
  simulateDnsFailure : Bool
  simulatePingFailure : Bool

def tmpDirname : String := "/var/tmp/zededa"
def AADirname : String := tmpDirname ++ "/AssignableAdapters"
def DNCDirname : String := tmpDirname ++ "/DeviceNetworkConfig"
def identityDirname : String := "/config"
def selfRegFile : String := identityDirname ++ "/self-register-failed"
def maxRetries : Nat := 5

/-- Not in the source: `http.StatusOK`. -/
def StatusOK : Nat := 200

/-- Not in the source: `types.GetMgmtPortsAny`, the names of the management ports; the
rotation argument is always 0 here. -/
def GetMgmtPortsAny (s : DeviceNetworkStatus) : List String :=
  (s.Ports.filter (·.IsMgmt)).map (·.IfName)

/-- `diagContext`: the fields its handlers and `printOutput` read or write, and the reports
it printed, the latest first. -/
structure DiagAgent where
  DeviceNetworkStatus : DeviceNetworkStatus := {}
  DevicePortConfigList : DevicePortConfigList := {}
  forever : Bool := false
  pacContents : Bool := false
  ledCounter : Int := 0
  gotBC : Bool := false
  gotDNS : Bool := false
  gotDPCList : Bool := false
  serverNameAndPort : String := ""
  serverName : String := ""
  reports : List (List DiagLine) := []

namespace Diag

variable (env : DiagEnv)

/-! ## The report's head -/

def DNCExists (model : String) : Bool := env.fileExists (DNCDirname ++ "/" ++ model ++ ".json")

def AAExists (model : String) : Bool := env.fileExists (AADirname ++ "/" ++ model ++ ".json")

/-- The lines of `printOutput` before the summary: the hardware model and its files. -/
def headerLines : List DiagLine :=
  let savedHardwareModel := env.GetHardwareModelOverride
  let hardwareModel := env.GetHardwareModelNoOverride
  [.updated env.now] ++
    (if savedHardwareModel ≠ "" ∧ savedHardwareModel ≠ hardwareModel then
      [.modelOverridden hardwareModel savedHardwareModel] else []) ++
    (if savedHardwareModel ≠ "" then
      (if DNCExists env savedHardwareModel then [] else
        [.savedModelNoDNC savedHardwareModel, .usingDefaultDNC]) ++
      (if AAExists env savedHardwareModel then [] else
        [.savedModelNoAA savedHardwareModel, .usingDefaultAA])
    else []) ++
    (if DNCExists env hardwareModel then [] else [.modelNoDNC hardwareModel]) ++
    (if AAExists env hardwareModel then [] else [.modelNoAA hardwareModel]) ++
    (if env.fileExists selfRegFile then [.selfRegisterInProgress] else [])

/-- The summary `printOutput` prints for the LED counter. -/
def ledSummary (ledCounter : Int) : String :=
  if ledCounter = 0 then "ERROR: Summary: Unknown LED counter 0"
  else if ledCounter = 1 then "ERROR: Summary: Waiting for DHCP IP address(es)"
  else if ledCounter = 2 then "ERROR: Summary: Trying to connect to EV Controller"
  else if ledCounter = 3 then "WARNING: Summary: Connected to EV Controller but not onboarded"
  else if ledCounter = 4 then "INFO: Summary: Connected to EV Controller and onboarded"
  else if ledCounter = 10 then "ERROR: Summary: Onboarding failure or conflict"
  else if ledCounter = 11 then
    "ERROR: Summary: Missing /var/tmp/zededa/DeviceNetworkConfig/ model file"
  else if ledCounter = 12 then "ERROR: Summary: Response without TLS - ignored"
  else if ledCounter = 13 then "ERROR: Summary: Response without OSCP or bad OSCP - ignored"
  else "ERROR: Summary: Unsupported LED counter " ++ toString ledCounter

/-- The loop over the `DevicePortConfig`s from index `i`: index 0 is skipped, each other one
is reported unused until `CurrentIndex`, where the loop stops. -/
def priorityLines (CurrentIndex : Int) (i : Nat) : List DevicePortConfig → List DiagLine
  | [] => []
  | dpc :: rest =>
    if i = 0 then priorityLines CurrentIndex (i + 1) rest
    else if (i : Int) ≠ CurrentIndex then
      .notUsingPriority i dpc.Key dpc.LastError :: priorityLines CurrentIndex (i + 1) rest
    else [.usingPriority i dpc.Key]

/-- The lines on the `DevicePortConfig` in use and the backups. -/
def dpcLines (l : DevicePortConfigList) : List DiagLine :=
  let DPCLen : Int := l.PortConfigList.length
  match l.PortConfigList with
  | [] => []
  | first :: _ =>
    if l.CurrentIndex ≠ 0 then
      .notUsingHighest first.Key first.LastError :: priorityLines l.CurrentIndex 0 l.PortConfigList ++
        (if DPCLen - 1 > l.CurrentIndex then [.backups (DPCLen - 1 - l.CurrentIndex)] else [])
    else .usingHighest first.Key :: (if DPCLen > 1 then [.backups (DPCLen - 1)] else [])

/-- From index `i > 0` to `CurrentIndex`, the loop reports each configuration it passes as
unused, with its index, key and last error, and the one at `CurrentIndex` as in use. -/
theorem priorityLines_eq {c : Nat} : ∀ (i : Nat) (l : List DevicePortConfig), 0 < i → i ≤ c →
    c < i + l.length → priorityLines c i l =
      ((l.take (c - i)).enumFrom i).map (fun p => .notUsingPriority p.1 p.2.Key p.2.LastError) ++
        [.usingPriority c (l.getD (c - i) {}).Key]
  | i, [], _, hic, hc => absurd hc (by simp; omega)
  | i, d :: l, hi, hic, hc => by
    rw [priorityLines, if_neg (show i ≠ 0 by omega)]
    by_cases hci : i = c
    · subst hci
      simp
    · rw [if_pos (show (i : Int) ≠ c by omega), priorityLines_eq (i + 1) l (by omega) (by omega) (by simp at hc; omega),
        show c - i = c - (i + 1) + 1 by omega, List.take_succ_cons, List.enumFrom_cons, List.map_cons,
        List.getD_cons_succ]
      rfl

/-- When a configuration of lower priority is in use, the report names each one of higher
priority that is not, in order, with its key and last error, then the one in use, then how
many come after it. -/
theorem dpcLines_fallback (first : DevicePortConfig) (rest : List DevicePortConfig) {c : Nat}
    (h0 : 0 < c) (hc : c ≤ rest.length) :
    dpcLines ⟨c, first :: rest⟩ =
      .notUsingHighest first.Key first.LastError ::
        ((rest.take (c - 1)).enumFrom 1).map (fun p => .notUsingPriority p.1 p.2.Key p.2.LastError) ++
        [.usingPriority c (rest.getD (c - 1) {}).Key] ++
        (if c < rest.length then [.backups (rest.length - c)] else []) := by
  have hlen : ((rest.length + 1 : Nat) : Int) - 1 = rest.length := by omega
  simp only [dpcLines, List.length_cons, hlen]
  rw [if_pos (show (c : Int) ≠ 0 by omega), priorityLines, if_pos rfl,
    priorityLines_eq 1 rest Nat.one_pos h0 (by omega)]
  simp only [List.cons_append, List.append_assoc, List.nil_append, Int.ofNat_lt]

/-- Three configurations, the last resort in use after the two above it failed. -/
theorem dpcLines_fallback_lastresort :
    0 < 2 ∧ 2 ≤ ([{ Key := "override", LastError := "no IP address" }, { Key := "lastresort" }] :
      List DevicePortConfig).length ∧
      dpcLines ⟨((2 : Nat) : Int), [{ Key := "zedagent", LastError := "ping failed" },
        { Key := "override", LastError := "no IP address" }, { Key := "lastresort" }]⟩ =
        [.notUsingHighest "zedagent" "ping failed", .notUsingPriority 1 "override" "no IP address",
          .usingPriority 2 "lastresort"] :=
  ⟨by decide, by decide, by
    rw [dpcLines_fallback { Key := "zedagent", LastError := "ping failed" }
      [{ Key := "override", LastError := "no IP address" }, { Key := "lastresort" }] (by decide)
      (by decide)]
    rfl⟩

/-! ## A port's lines -/

/-- The line of an address of a port, none for a link-local one. -/
def addrLines (ifname : String) (ai : AddrInfo) : List DiagLine :=
  if ai.Addr.IsLinkLocalUnicast then []
  else if ai.Geo = {} then [.notGeolocated ifname ai.Addr]
  else [.geolocated ifname ai.Addr ai.Geo]

/-- The proxy servers `printProxy` lists: `Server:Port`, or `Server` without a port. -/
def proxyServer (proxy : ProxyEntry) : String :=
  if proxy.Port > 0 then proxy.Server ++ ":" ++ toString proxy.Port else proxy.Server

/-- `printProxy`; a PAC file that does not decode is only logged. -/
def printProxy (pacContents : Bool) (port : NetworkPortStatus) (ifname : String) :
    List DiagLine :=
  let pc := port.ProxyConfig
  if IsProxyConfigEmpty pc then [.noProxy ifname] else
  (if pc.Exceptions ≠ "" then [.proxyExceptions ifname pc.Exceptions] else []) ++
    (if port.Error ≠ "" then [.wpadError ifname port.Error] else []) ++
    (if pc.NetworkProxyEnable then
      if pc.NetworkProxyURL = "" then
        if pc.WpadURL = "" then [.wpadNoURL ifname] else [.wpadFound ifname pc.WpadURL]
      else [.wpadFetched ifname pc.NetworkProxyURL]
    else []) ++
    (if pc.Pacfile.utf8ByteSize > 0 then
      .pacLen ifname pc.Pacfile.utf8ByteSize ::
        if pacContents then
          match env.DecodeString pc.Pacfile with
          | .error _ => []
          | .ok pacFile => [.pacFile ifname pacFile]
        else []
    else pc.Proxies.filterMap fun proxy =>
      if proxy.ProxyType = NPT_HTTP then some (.httpProxy ifname (proxyServer proxy))
      else if proxy.ProxyType = NPT_HTTPS then some (.httpsProxy ifname (proxyServer proxy))
      else none)

/-- The lines `printOutput` prints on a port before its tests. -/
def portInfoLines (pacContents : Bool) (port : NetworkPortStatus) (ifname typeStr : String) :
    List DiagLine :=
  .portType ifname typeStr :: port.AddrInfoList.flatMap (addrLines ifname) ++
    (if port.usableAddrs.length = 0 then [.noIPAddress ifname] else []) ++
    .dnsServers ifname port.DnsServers ::
    (if port.Dhcp = .DT_STATIC then
      [.staticSubnet ifname port.Subnet, .staticRouter ifname port.Gateway,
        .staticDomain ifname port.DomainName, .staticNtp ifname port.NtpServer]
    else []) ++
    printProxy env pacContents port ifname

/-! ## The tests of a management port -/

/-- `tryLookupIP`: whether the controller's name resolves, and the lines. -/
def tryLookupIP (serverName ifname : String) : Bool × List DiagLine :=
  match env.LookupIP serverName with
  | .error err => (false, [.lookupFailed ifname serverName err])
  | .ok [] => (false, [.lookupNoAnswers ifname serverName])
  | .ok ips =>
    let lines := ips.map (.lookupReturned ifname serverName)
    if env.simulateDnsFailure then (false, lines ++ [.simulateDnsFailure ifname])
    else (true, lines)

/-- `myGet`: whether the get is done, and its lines. -/
def myGet (status : DeviceNetworkStatus) (requrl ifname : String) (retryCount : Nat) :
    Bool × List DiagLine :=
  let preqUrl :=
    if requrl.startsWith "http:" then requrl
    else if requrl.startsWith "https:" then requrl
    else "https://" ++ requrl
  let proxyLines : List DiagLine :=
    match env.LookupProxy status ifname preqUrl with
    | .error err => [.lookupProxyFailed ifname err]
    | .ok (some proxyUrl) => [.usingProxy ifname proxyUrl requrl]
    | .ok none => []
  match env.SendOnIntf requrl ifname retryCount with
  | .error err => (false, proxyLines ++ [.getFailed ifname requrl err])
  | .ok (code, contents) =>
    if code = StatusOK then (true, proxyLines ++ [.statusOK ifname requrl])
    else (false, proxyLines ++ [.statusCode ifname requrl code, .received ifname contents])

/-- The loop of `tryPing` and `tryGetUuid` from `retryCount`: a get, and after a failure
another with `retryCount + 1`, until `retryCount` passes `maxRetries`; `what` names the get
in the line on the excess. -/
def getWithRetries (status : DeviceNetworkStatus) (what requrl ifname : String)
    (retryCount : Nat) : Bool × List DiagLine :=
  let r := myGet env status requrl ifname retryCount
  if r.1 then (true, r.2)
  else if maxRetries ≠ 0 ∧ retryCount + 1 > maxRetries then
    (false, r.2 ++ [.exceededRetries ifname maxRetries what])
  else
    let rest := getWithRetries status what requrl ifname (retryCount + 1)
    (rest.1, r.2 ++ rest.2)
termination_by maxRetries + 1 - retryCount
decreasing_by simp_wf; simp only [maxRetries] at *; omega

/-- The counters of `printOutput`'s loop over the ports, with the lines printed. -/
structure PortTally where
  mgmtPorts : Nat := 0
  passPorts : Nat := 0
  passOtherPorts : Nat := 0
  lines : List DiagLine := []

/-- The lines after the loop: the warning on non-management ports, and the verdict. -/
def verdictLines (t : PortTally) : List DiagLine :=
  (if t.passOtherPorts > 0 then [.otherPortsConnected t.passOtherPorts] else []) ++
    if t.mgmtPorts = 0 then [.noMgmtPorts]
    else if t.passPorts = t.mgmtPorts then [.allPassed]
    else [.somePassed t.passPorts t.mgmtPorts]

/-- `cmp.Equal` of the pointer `ctx.DevicePortConfigList` with a list value: values of
different types are never equal. -/
def cmpEqualPointerDPC (_ptr _status : DevicePortConfigList) : Bool := false

/-- `cmp.Equal` of the pointer `ctx.DeviceNetworkStatus` with a status value: values of
different types are never equal. -/
def cmpEqualPointer (_ptr _status : DeviceNetworkStatus) : Bool := false

end Diag

/-- A change of one of diag's subscriptions; the `LedBlinkCounter` and
`DevicePortConfigList` subscriptions have no delete handler. -/
inductive DiagEvent
  | ledBlinkModify (key : String) (config : LedBlinkCounter)
  | ledBlinkDelete (key : String)
  | dnsModify (key : String) (status : DeviceNetworkStatus)
  | dnsDelete (key : String)
  | dpcModify (key : String) (status : DevicePortConfigList)
  | dpcDelete (key : String)

/-- Whether a change comes from the `LedBlinkCounter` subscription. -/
def DiagEvent.isBC : DiagEvent → Bool
  | .ledBlinkModify .. | .ledBlinkDelete _ => true
  | _ => false

/-- Whether a change comes from the `DeviceNetworkStatus` subscription. -/
def DiagEvent.isDNS : DiagEvent → Bool
  | .dnsModify .. | .dnsDelete _ => true
  | _ => false

/-- Whether a change comes from the `DevicePortConfigList` subscription. -/
def DiagEvent.isDPC : DiagEvent → Bool
  | .dpcModify .. | .dpcDelete _ => true
  | _ => false

/-- The delivery of a change of the `DeviceNetworkStatus` subscription. -/
def DiagEvent.dns? : DiagEvent → Option DNSDelivery
  | .dnsModify key status => some (.modify key status)
  | .dnsDelete key => some (.delete key)
  | _ => none

/-- Whether each of the three subscriptions has delivered a change among `evs`. -/
def DiagEvent.allDelivered (evs : List DiagEvent) : Bool :=
  evs.any DiagEvent.isDNS && evs.any DiagEvent.isBC && evs.any DiagEvent.isDPC

namespace DiagAgent

open Diag

variable (env : DiagEnv)

/-- `tryPing`: the controller's ping when `requrl` is empty. -/
def tryPing (ctx : DiagAgent) (ifname requrl : String) : Bool × List DiagLine :=
  let requrl := if requrl = "" then ctx.serverNameAndPort ++ "/api/v1/edgedevice/ping" else requrl
  let r := getWithRetries env ctx.DeviceNetworkStatus "ping" requrl ifname 0
  if !r.1 then (false, r.2)
  else if env.simulatePingFailure then (false, r.2 ++ [.simulatePingFailure ifname])
  else (true, r.2)

/-- `tryGetUuid`: the controller's config. -/
def tryGetUuid (ctx : DiagAgent) (ifname : String) : Bool × List DiagLine :=
  getWithRetries env ctx.DeviceNetworkStatus "get config"
    (ctx.serverNameAndPort ++ "/api/v1/edgedevice/config") ifname 0

/-- The tests of a management port with an address: a DNS lookup, a ping (when it fails,
pings of google over http and https instead), and a config get; whether the port passes,
and the lines. -/
def portTests (ctx : DiagAgent) (ifname : String) : Bool × List DiagLine :=
  let lookup := tryLookupIP env ctx.serverName ifname
  if !lookup.1 then (false, lookup.2) else
  let ping := tryPing env ctx ifname ""
  if !ping.1 then
    let http := tryPing env ctx ifname "http://www.google.com"
    let https := tryPing env ctx ifname "https://www.google.com"
    (false, lookup.2 ++ ping.2 ++ [.pingFailed ifname ctx.serverNameAndPort] ++ http.2 ++
      [if http.1 then .reachHttpGoogle ifname ctx.serverNameAndPort else .noHttpGoogle ifname] ++
      https.2 ++
      [if https.1 then .reachHttpsGoogle ifname ctx.serverNameAndPort else .noHttpsGoogle ifname])
  else
  let uuid := tryGetUuid env ctx ifname
  (uuid.1, lookup.2 ++ ping.2 ++ uuid.2)

/-! ## The ports' loop and the verdict -/

/-- One pass of the loop over the ports. -/
def printPort (ctx : DiagAgent) (acc : PortTally) (port : NetworkPortStatus) : PortTally :=
  let s := ctx.DeviceNetworkStatus
  let ifname := port.IfName
  let isFree := IsFreeMgmtPort s ifname
  let isMgmt := isFree || IsMgmtPort s ifname
  let typeStr :=
    if isFree then "for EV Controller without usage-based charging"
    else if isMgmt then "for EV Controller" else "for application use"
  let acc := { acc with
    mgmtPorts := if isMgmt then acc.mgmtPorts + 1 else acc.mgmtPorts
    lines := acc.lines ++ portInfoLines env ctx.pacContents port ifname typeStr }
  if !isMgmt then { acc with lines := acc.lines ++ [.notIntended ifname] }
  else if port.usableAddrs.length = 0 then
    { acc with lines := acc.lines ++ [.noIPForController ifname] }
  else
    let t := portTests env ctx ifname
    if !t.1 then { acc with lines := acc.lines ++ t.2 }
    else { acc with
      passPorts := if isMgmt then acc.passPorts + 1 else acc.passPorts
      passOtherPorts := if isMgmt then acc.passOtherPorts else acc.passOtherPorts + 1
      lines := acc.lines ++ t.2 ++ [.portPassed ifname ctx.serverName] }

/-- The loop over the ports of the status. -/
def printPorts (ctx : DiagAgent) : PortTally :=
  ctx.DeviceNetworkStatus.Ports.foldl (printPort env ctx) {}

/-- The lines of a report. -/
def reportLines (ctx : DiagAgent) : List DiagLine :=
  let s := ctx.DeviceNetworkStatus
  let t := printPorts env ctx
  headerLines env ++ .summary (ledSummary ctx.ledCounter) :: dpcLines ctx.DevicePortConfigList ++
    .totalPorts s.Ports.length (GetMgmtPortsAny s).length :: t.lines ++ verdictLines t

/-- Whether all three subscriptions have delivered. -/
def ready (ctx : DiagAgent) : Bool := ctx.gotDNS && ctx.gotBC && ctx.gotDPCList

/-- `printOutput`: nothing until all three subscriptions have delivered. -/
def printOutput (ctx : DiagAgent) : DiagAgent :=
  if !ctx.gotDNS || !ctx.gotBC || !ctx.gotDPCList then ctx
  else { ctx with reports := reportLines env ctx :: ctx.reports }

/-! ## The handlers and `Run`'s loop -/

def handleLedBlinkModify (ctx : DiagAgent) (key : String) (config : LedBlinkCounter) :
    DiagAgent :=
  if key ≠ "ledconfig" then ctx
  else if config.BlinkCounter = ctx.ledCounter then ctx
  else printOutput env { ctx with ledCounter := config.BlinkCounter }

def handleDNSModify (ctx : DiagAgent) (key : String) (status : GoProvision.DeviceNetworkStatus) :
    DiagAgent :=
  if key ≠ "global" then ctx
  else if status.Testing then ctx
  else if Diag.cmpEqualPointer ctx.DeviceNetworkStatus status then ctx
  else printOutput env { ctx with DeviceNetworkStatus := status }

def handleDNSDelete (ctx : DiagAgent) (key : String) : DiagAgent :=
  if key ≠ "global" then ctx
  else printOutput env { ctx with DeviceNetworkStatus := {} }

def handleDPCModify (ctx : DiagAgent) (key : String) (status : GoProvision.DevicePortConfigList) :
    DiagAgent :=
  if key ≠ "global" then ctx
  else if cmpEqualPointerDPC ctx.DevicePortConfigList status then ctx
  else printOutput env { ctx with DevicePortConfigList := status }

/-- A case of `Run`'s `select`: mark the subscription as delivered, then process the
change. -/
def diagStep (ctx : DiagAgent) : DiagEvent → DiagAgent
  | .ledBlinkModify key config => handleLedBlinkModify env { ctx with gotBC := true } key config
  | .ledBlinkDelete _ => { ctx with gotBC := true }
  | .dnsModify key status => handleDNSModify env { ctx with gotDNS := true } key status
  | .dnsDelete key => handleDNSDelete env { ctx with gotDNS := true } key
  | .dpcModify key status => handleDPCModify env { ctx with gotDPCList := true } key status
  | .dpcDelete _ => { ctx with gotDPCList := true }

/-- `Run`'s loop over the changes: without `forever`, it stops once all three subscriptions
have delivered. -/
def diagRun (ctx : DiagAgent) : List DiagEvent → DiagAgent
  | [] => ctx
  | e :: es =>
    let ctx := diagStep env ctx e
    if !ctx.forever && ctx.gotDNS && ctx.gotBC && ctx.gotDPCList then ctx else diagRun ctx es

/-- The context `Run` starts from, with the `-f` and `-p` flags and the contents of the
server file. -/
def init (forever pacContents : Bool) (server : String) : DiagAgent :=
  { forever, pacContents, serverNameAndPort := server.trim,
    serverName := (server.trim.splitOn ":").headD "" }

/-- A device that cannot reach anything: no model files, no resolver, no network. -/
def offlineEnv : DiagEnv where
  now := "2019-01-01T00:00:00Z"
  GetHardwareModelOverride := ""
  GetHardwareModelNoOverride := "Supermicro.SYS-E100-9APP"
  fileExists := fun _ => false
  LookupIP := fun _ => .error "no such host"
  LookupProxy := fun _ _ _ => .ok none
  SendOnIntf := fun _ _ _ => .error "network is unreachable"
  DecodeString := fun _ => .error "illegal base64 data"
  simulateDnsFailure := false
  simulatePingFailure := false

/-! ## What the ports' loop counts -/

/-- A free management port is a management port. -/
theorem IsMgmtPort_of_IsFreeMgmtPort {s : GoProvision.DeviceNetworkStatus} {ifname : String}
    (h : IsFreeMgmtPort s ifname = true) : IsMgmtPort s ifname = true := by
  simp only [IsFreeMgmtPort, IsMgmtPort, List.any_eq_true, Bool.and_eq_true] at h ⊢
  obtain ⟨p, hp, ⟨hm, -⟩, hn⟩ := h
  exact ⟨p, hp, hm, hn⟩

@[simp] theorem isFree_or_isMgmt (s : GoProvision.DeviceNetworkStatus) (ifname : String) :
    (IsFreeMgmtPort s ifname || IsMgmtPort s ifname) = IsMgmtPort s ifname := by
  cases h : IsFreeMgmtPort s ifname
  · rfl
  · simp [IsMgmtPort_of_IsFreeMgmtPort h]

/-- Whether `printOutput` counts a port as passed: a management port with an address whose
three tests pass. -/
def PortPasses (ctx : DiagAgent) (port : NetworkPortStatus) : Bool :=
  IsMgmtPort ctx.DeviceNetworkStatus port.IfName && port.usableAddrs.length ≠ 0 &&
    (portTests env ctx port.IfName).1

/-- One port adds itself to the management ports and to those passed when it is one, and
never to `passOtherPorts`: a port that is not a management port skips its tests. -/
theorem printPort_tally (ctx : DiagAgent) (acc : PortTally) (port : NetworkPortStatus) :
    (printPort env ctx acc port).mgmtPorts =
        acc.mgmtPorts + (if IsMgmtPort ctx.DeviceNetworkStatus port.IfName then 1 else 0) ∧
      (printPort env ctx acc port).passPorts =
        acc.passPorts + (if PortPasses env ctx port then 1 else 0) ∧
      (printPort env ctx acc port).passOtherPorts = acc.passOtherPorts := by
  simp only [printPort, isFree_or_isMgmt, PortPasses]
  by_cases hm : IsMgmtPort ctx.DeviceNetworkStatus port.IfName = true
  · by_cases ha : port.usableAddrs.length = 0
    · simp [hm, ha]
    · by_cases ht : (portTests env ctx port.IfName).1 = true <;> simp [hm, ha, ht]
  · simp [hm]

theorem foldl_printPort_tally (ctx : DiagAgent) (ps : List NetworkPortStatus) (acc : PortTally) :
    (ps.foldl (printPort env ctx) acc).mgmtPorts =
        acc.mgmtPorts + ps.countP (fun p => IsMgmtPort ctx.DeviceNetworkStatus p.IfName) ∧
      (ps.foldl (printPort env ctx) acc).passPorts = acc.passPorts + ps.countP (PortPasses env ctx) ∧
      (ps.foldl (printPort env ctx) acc).passOtherPorts = acc.passOtherPorts := by
  induction ps generalizing acc with
  | nil => simp
  | cons p ps ih =>
    obtain ⟨h₁, h₂, h₃⟩ := printPort_tally env ctx acc p
    obtain ⟨i₁, i₂, i₃⟩ := ih (printPort env ctx acc p)
    rw [List.foldl_cons, List.countP_cons, List.countP_cons]
    omega

/-- The loop over the ports counts the management ports and those that pass, and leaves
`passOtherPorts` at 0. -/
theorem printPorts_tally (ctx : DiagAgent) :
    (printPorts env ctx).mgmtPorts =
        ctx.DeviceNetworkStatus.Ports.countP (fun p => IsMgmtPort ctx.DeviceNetworkStatus p.IfName) ∧
      (printPorts env ctx).passPorts = ctx.DeviceNetworkStatus.Ports.countP (PortPasses env ctx) ∧
      (printPorts env ctx).passOtherPorts = 0 := by
  simpa using foldl_printPort_tally env ctx ctx.DeviceNetworkStatus.Ports {}

/-- Of two tests the first of which implies the second, the counts agree exactly when the
second implies the first as well. -/
theorem countP_eq_countP_iff {α : Type} {p q : α → Bool} : ∀ {l : List α},
    (∀ x ∈ l, p x → q x) → (l.countP p = l.countP q ↔ ∀ x ∈ l, q x → p x)
  | [], _ => by simp
  | a :: l, h => by
    have hle := List.countP_mono_left fun x hx => h x (.tail _ hx)
    have ih := countP_eq_countP_iff fun x hx => h x (.tail _ hx)
    simp only [List.countP_cons, List.forall_mem_cons, ← ih]
    cases hp : p a <;> cases hq : q a
    · simp
    · simp only [if_true, Bool.false_eq_true, if_false, true_implies, false_and, iff_false]
      omega
    · exact absurd (h a (.head _) hp) (by simp [hq])
    · simp

/-- The verdict: with no management port, an error; when every management port passed its
tests, PASS; otherwise how many of them passed. It is a single line: the warning on
non-management ports, which the source prints before it, never is. -/
theorem printOutput_verdict (ctx : DiagAgent) :
    verdictLines (printPorts env ctx) =
      [if ∀ p ∈ ctx.DeviceNetworkStatus.Ports, IsMgmtPort ctx.DeviceNetworkStatus p.IfName = false
        then .noMgmtPorts
        else if ∀ p ∈ ctx.DeviceNetworkStatus.Ports,
          IsMgmtPort ctx.DeviceNetworkStatus p.IfName = true → PortPasses env ctx p = true
        then .allPassed
        else .somePassed (ctx.DeviceNetworkStatus.Ports.countP (PortPasses env ctx))
          (ctx.DeviceNetworkStatus.Ports.countP fun p => IsMgmtPort ctx.DeviceNetworkStatus p.IfName)] := by
  obtain ⟨hm, hp, ho⟩ := printPorts_tally env ctx
  have himp : ∀ p ∈ ctx.DeviceNetworkStatus.Ports,
      PortPasses env ctx p = true → IsMgmtPort ctx.DeviceNetworkStatus p.IfName = true :=
    fun p _ h => by
      simp only [PortPasses, Bool.and_eq_true] at h
      exact h.1.1
  simp only [verdictLines, ho, hm, hp, lt_irrefl, if_false, List.nil_append, List.countP_eq_zero,
    countP_eq_countP_iff himp, Bool.not_eq_true]
  split_ifs <;> rfl

/-! ## `Run`'s loop -/

/-- `printOutput` adds the report when all three subscriptions have delivered, and changes
nothing else. -/
theorem printOutput_eq (ctx : DiagAgent) :
    printOutput env ctx =
      { ctx with reports := if ready ctx then reportLines env ctx :: ctx.reports else ctx.reports } := by
  rcases ctx with ⟨_, _, _, _, _, gotBC, gotDNS, gotDPCList, _, _, _⟩
  cases gotBC <;> cases gotDNS <;> cases gotDPCList <;> rfl

/-- A step marks the subscription of its change as delivered, takes the data the change
carries, and prints at most once, through `printOutput`. -/
theorem diagStep_cases (ctx : DiagAgent) (e : DiagEvent) :
    ∃ d : DiagAgent, (diagStep env ctx e = d ∨ diagStep env ctx e = printOutput env d) ∧
      d.gotBC = (ctx.gotBC || e.isBC) ∧ d.gotDNS = (ctx.gotDNS || e.isDNS) ∧
      d.gotDPCList = (ctx.gotDPCList || e.isDPC) ∧ d.forever = ctx.forever ∧
      d.reports = ctx.reports := by
  cases e <;> simp only [diagStep, handleLedBlinkModify, handleDNSModify, handleDNSDelete,
    handleDPCModify] <;> try split_ifs
  all_goals first
    | refine ⟨_, .inl rfl, ?_, ?_, ?_, rfl, rfl⟩
    | refine ⟨_, .inr rfl, ?_, ?_, ?_, rfl, rfl⟩
  all_goals simp only [DiagEvent.isBC, DiagEvent.isDNS, DiagEvent.isDPC, Bool.or_true, Bool.or_false]

/-- What `Run`'s loop reads after a step: `forever` is kept, the subscription of the change
is marked, and a report is added only once all three subscriptions have delivered. -/
theorem diagStep_frame (ctx : DiagAgent) (e : DiagEvent) :
    (diagStep env ctx e).forever = ctx.forever ∧
      (diagStep env ctx e).gotBC = (ctx.gotBC || e.isBC) ∧
      (diagStep env ctx e).gotDNS = (ctx.gotDNS || e.isDNS) ∧
      (diagStep env ctx e).gotDPCList = (ctx.gotDPCList || e.isDPC) ∧
      ((diagStep env ctx e).reports = ctx.reports ∨
        ready (diagStep env ctx e) = true ∧ ∃ r, (diagStep env ctx e).reports = r :: ctx.reports) := by
  obtain ⟨d, hd, h₁, h₂, h₃, h₄, h₅⟩ := diagStep_cases env ctx e
  rcases hd with hd | hd <;> rw [hd]
  · exact ⟨h₄, h₁, h₂, h₃, .inl h₅⟩
  · rw [printOutput_eq]
    refine ⟨h₄, h₁, h₂, h₃, ?_⟩
    split_ifs with hr
    · exact .inr ⟨hr, _, by rw [h₅]⟩
    · exact .inl h₅

/-- Over a sequence of steps `forever` is kept and the subscriptions of the changes are
marked. -/
theorem foldl_diagStep_got : ∀ (evs : List DiagEvent) (ctx : DiagAgent),
    (evs.foldl (diagStep env) ctx).forever = ctx.forever ∧
      (evs.foldl (diagStep env) ctx).gotBC = (ctx.gotBC || evs.any DiagEvent.isBC) ∧
      (evs.foldl (diagStep env) ctx).gotDNS = (ctx.gotDNS || evs.any DiagEvent.isDNS) ∧
      (evs.foldl (diagStep env) ctx).gotDPCList = (ctx.gotDPCList || evs.any DiagEvent.isDPC)
  | [], _ => by simp
  | e :: evs, ctx => by
    obtain ⟨hf, hbc, hdns, hdpc, -⟩ := diagStep_frame env ctx e
    obtain ⟨i₁, i₂, i₃, i₄⟩ := foldl_diagStep_got evs (diagStep env ctx e)
    simp only [List.foldl_cons, List.any_cons, i₁, i₂, i₃, i₄, hf, hbc, hdns, hdpc, Bool.or_assoc,
      and_self]

/-- From `Run`'s start, the three subscriptions have delivered exactly when each has a
change among the events. -/
theorem ready_foldl_init (forever pacContents : Bool) (server : String) (evs : List DiagEvent) :
    ready (evs.foldl (diagStep env) (init forever pacContents server)) =
      DiagEvent.allDelivered evs := by
  obtain ⟨-, hbc, hdns, hdpc⟩ := foldl_diagStep_got env evs (init forever pacContents server)
  rw [ready, hbc, hdns, hdpc]
  rfl

/-- Once the three subscriptions have delivered, they stay delivered. -/
theorem ready_foldl_of_ready {ctx : DiagAgent} (h : ready ctx = true) (evs : List DiagEvent) :
    ready (evs.foldl (diagStep env) ctx) = true := by
  obtain ⟨-, hbc, hdns, hdpc⟩ := foldl_diagStep_got env evs ctx
  simp only [ready, Bool.and_eq_true] at h ⊢
  rw [hbc, hdns, hdpc, h.1.1, h.1.2, h.2]
  simp

/-- Without `forever`, over changes after which the three subscriptions have not all
delivered, the loop goes on and prints nothing. -/
theorem diagRun_unready (rest : List DiagEvent) : ∀ (evs : List DiagEvent) (ctx : DiagAgent),
    ctx.forever = false → ready (evs.foldl (diagStep env) ctx) = false →
    diagRun env ctx (evs ++ rest) = diagRun env (evs.foldl (diagStep env) ctx) rest ∧
      (evs.foldl (diagStep env) ctx).reports = ctx.reports
  | [], _, _, _ => ⟨rfl, rfl⟩
  | e :: evs, ctx, hf, hr => by
    obtain ⟨hf', -, -, -, hrep⟩ := diagStep_frame env ctx e
    have hnr : ready (diagStep env ctx e) = false := by
      cases hc : ready (diagStep env ctx e)
      · rfl
      · exact absurd (ready_foldl_of_ready env hc evs) (by simpa using hr)
    have hrep' : (diagStep env ctx e).reports = ctx.reports :=
      hrep.resolve_right fun ⟨h, _⟩ => by simp [hnr] at h
    obtain ⟨i₁, i₂⟩ := diagRun_unready rest evs _ (hf'.trans hf) hr
    refine ⟨?_, i₂.trans hrep'⟩
    simp only [List.cons_append, diagRun, hf'.trans hf, Bool.not_false, Bool.true_and]
    rw [show ((diagStep env ctx e).gotDNS && (diagStep env ctx e).gotBC &&
        (diagStep env ctx e).gotDPCList) = false by simpa [ready, Bool.and_assoc,
          Bool.and_left_comm] using hnr, if_neg Bool.false_ne_true]
    exact i₁

/-- Without `forever`, the loop stops at a change after which the three subscriptions
have delivered. -/
theorem diagRun_stop {ctx : DiagAgent} (hf : ctx.forever = false) {e : DiagEvent}
    (hr : ready (diagStep env ctx e) = true) (post : List DiagEvent) :
    diagRun env ctx (e :: post) = diagStep env ctx e := by
  have hf' := (diagStep_frame env ctx e).1.trans hf
  simp only [ready, Bool.and_eq_true] at hr
  simp [diagRun, hf', hr.1.1, hr.1.2, hr.2]

/-- From a context that printed nothing, a step prints at most the report of the state
it leaves. -/
theorem diagStep_report {ctx : DiagAgent} (h0 : ctx.reports = []) (e : DiagEvent) :
    (diagStep env ctx e).reports = [] ∨
      (diagStep env ctx e).reports = [reportLines env (diagStep env ctx e)] := by
  obtain ⟨d, hd, -, -, -, -, hdr⟩ := diagStep_cases env ctx e
  rcases hd with hd | hd <;> rw [hd]
  · exact .inl (hdr.trans h0)
  · rw [printOutput_eq]
    split_ifs
    · exact .inr (by rw [hdr, h0]; rfl)
    · exact .inl (hdr.trans h0)

/-- Without `forever`, from a context that printed nothing, the loop prints at most the
report of the state it stops in. -/
theorem diagRun_reports : ∀ (evs : List DiagEvent) (ctx : DiagAgent), ctx.forever = false →
    ctx.reports = [] →
    (diagRun env ctx evs).reports = [] ∨
      (diagRun env ctx evs).reports = [reportLines env (diagRun env ctx evs)]
  | [], _, _, h0 => .inl h0
  | e :: evs, ctx, hf, h0 => by
    obtain ⟨hf', -, -, -, hrep⟩ := diagStep_frame env ctx e
    cases hr : ready (diagStep env ctx e)
    · have hrep' : (diagStep env ctx e).reports = [] :=
        (hrep.resolve_right fun ⟨h, _⟩ => by simp [hr] at h).trans h0
      rw [← List.singleton_append, (diagRun_unready env evs [e] ctx hf (by simpa using hr)).1]
      exact diagRun_reports evs _ (hf'.trans hf) hrep'
    · rw [diagRun_stop env hf hr]
      exact diagStep_report env h0 e

/-- A run of diag without `-f` prints at most one report, the report of the state its
loop stops in; the loop stops at the first change after which the three subscriptions
have delivered; and nothing is printed while they have not. -/
theorem diagRun_one_report (pacContents : Bool) (server : String) (evs : List DiagEvent) :
    let start := init false pacContents server
    let run := diagRun env start evs
    (run.reports = [] ∨ run.reports = [reportLines env run]) ∧
      (∀ pre e post, evs = pre ++ e :: post → DiagEvent.allDelivered pre = false →
        DiagEvent.allDelivered (pre ++ [e]) = true →
        run = diagStep env (pre.foldl (diagStep env) start) e) ∧
      (DiagEvent.allDelivered evs = false → run.reports = []) := by
  intro start run
  refine ⟨diagRun_reports env evs start rfl rfl, ?_, fun hn => ?_⟩
  · rintro pre e post rfl hpre he
    have hu := diagRun_unready env (e :: post) pre start rfl
      (by rw [ready_foldl_init]; exact hpre)
    have hr : ready (diagStep env (pre.foldl (diagStep env) start) e) = true := by
      have : diagStep env (pre.foldl (diagStep env) start) e =
          (pre ++ [e]).foldl (diagStep env) start := by simp [List.foldl_append]
      rw [this, ready_foldl_init]
      exact he
    rw [show run = _ from hu.1,
      diagRun_stop env ((foldl_diagStep_got env pre start).1.trans rfl) hr]
  · have hu := diagRun_unready env [] evs start rfl (by rw [ready_foldl_init]; exact hn)
    rw [List.append_nil] at hu
    exact (show run = _ from hu.1) ▸ hu.2

/-- The LED counter and the port configurations arrive, then the status of `eth0`, then a
new LED counter: the loop stops at the status, which completes the three. -/
theorem diagRun_one_report_eth0 :
    let start := init false false "controller:443"
    let pre := [DiagEvent.ledBlinkModify "ledconfig" ⟨2⟩, .dpcModify "global" {}]
    let e := DiagEvent.dnsModify "global" { Ports := [{ IfName := "eth0", IsMgmt := true }] }
    DiagEvent.allDelivered pre = false ∧ DiagEvent.allDelivered (pre ++ [e]) = true ∧
      diagRun offlineEnv start (pre ++ e :: [.ledBlinkModify "ledconfig" ⟨3⟩]) =
        diagStep offlineEnv (pre.foldl (diagStep offlineEnv) start) e :=
  ⟨rfl, rfl, (diagRun_one_report offlineEnv false "controller:443" _).2.1 _ _ _ rfl rfl rfl⟩

/-- A status under test changes nothing but the mark of its subscription. -/
theorem diagStep_testing (ctx : DiagAgent) (key : String) {status : GoProvision.DeviceNetworkStatus}
    (hs : status.Testing = true) : diagStep env ctx (.dnsModify key status) = { ctx with gotDNS := true } := by
  simp only [diagStep, handleDNSModify, hs]
  split_ifs <;> rfl

/-- Without `-f`, when the first `DeviceNetworkStatus` diag receives, after changes of its
other two subscriptions, is one under test, diag stops there without printing a report,
whatever would have come next. -/
theorem diagRun_silent_on_testing (pacContents : Bool) (server : String) {evs : List DiagEvent}
    (hno : ∀ e ∈ evs, e.isDNS = false) (hbc : evs.any DiagEvent.isBC = true)
    (hdpc : evs.any DiagEvent.isDPC = true) (key : String)
    {status : GoProvision.DeviceNetworkStatus} (hs : status.Testing = true) (rest : List DiagEvent) :
    (diagRun env (init false pacContents server) (evs ++ .dnsModify key status :: rest)).reports = [] := by
  have hdns : evs.any DiagEvent.isDNS = false := List.any_eq_false.2 fun e he => by simp [hno e he]
  obtain ⟨h₁, h₃⟩ := diagRun_unready env (.dnsModify key status :: rest) evs
    (init false pacContents server) rfl (by simp [ready_foldl_init, DiagEvent.allDelivered, hdns])
  obtain ⟨h₄, h₅, -, h₆⟩ := foldl_diagStep_got env evs (init false pacContents server)
  rw [h₁, diagRun, diagStep_testing env _ key hs]
  dsimp only
  rw [h₄, h₅, h₆, hbc, hdpc, Bool.or_true, Bool.or_true]
  simpa [init] using h₃

/-- The LED counter and the port configurations arrive, then a status of `eth0` under
test: diag stops without a report. -/
theorem diagRun_silent_on_testing_eth0 :
    (∀ e ∈ [DiagEvent.ledBlinkModify "ledconfig" ⟨2⟩, .dpcModify "global" {}], e.isDNS = false) ∧
      [DiagEvent.ledBlinkModify "ledconfig" ⟨2⟩, .dpcModify "global" {}].any DiagEvent.isBC = true ∧
      [DiagEvent.ledBlinkModify "ledconfig" ⟨2⟩, .dpcModify "global" {}].any DiagEvent.isDPC = true ∧
      ({ Testing := true, Ports := [{ IfName := "eth0", IsMgmt := true }] } :
        GoProvision.DeviceNetworkStatus).Testing = true ∧
      (diagRun offlineEnv (init false false "controller:443")
        ([DiagEvent.ledBlinkModify "ledconfig" ⟨2⟩, .dpcModify "global" {}] ++
          [.dnsModify "global" { Testing := true, Ports := [{ IfName := "eth0", IsMgmt := true }] }])).reports = [] :=
  ⟨by decide, rfl, rfl, rfl, diagRun_silent_on_testing offlineEnv false "controller:443" (by decide)
    (by rfl) (by rfl) "global" (by rfl) []⟩

/-! ## The status diag reports on -/

/-- A step takes the status a `DeviceNetworkStatus` delivery should leave, as every
subscriber does, and keeps its status on other changes. -/
theorem diagStep_status (ctx : DiagAgent) (e : DiagEvent) :
    (diagStep env ctx e).DeviceNetworkStatus =
      match e.dns? with
      | some d => d.expect ctx.DeviceNetworkStatus
      | none => ctx.DeviceNetworkStatus := by
  cases e <;> simp only [diagStep, handleLedBlinkModify, handleDNSModify, handleDNSDelete,
    handleDPCModify, DiagEvent.dns?, DNSDelivery.expect, Diag.cmpEqualPointer] <;> try split_ifs
  all_goals simp_all [printOutput_eq]

/-- With `forever`, the loop never stops, and it holds the status `lastGlobalStatus` says a
subscriber should hold after the loop's `DeviceNetworkStatus` deliveries. -/
theorem diagRun_status_of_forever (evs : List DiagEvent) : ∀ ctx : DiagAgent, ctx.forever = true →
    (diagRun env ctx evs).DeviceNetworkStatus =
      lastGlobalStatus ctx.DeviceNetworkStatus (evs.filterMap DiagEvent.dns?) := by
  induction evs with
  | nil => intro ctx _; rfl
  | cons e es ih =>
    intro ctx hf
    have hf' : (diagStep env ctx e).forever = true := (diagStep_frame env ctx e).1.trans hf
    simp only [diagRun, hf', Bool.not_true, Bool.false_and, Bool.false_eq_true, if_false]
    rw [ih _ hf', diagStep_status, List.filterMap_cons]
    cases e.dns? <;> rfl

/-- With `-f`, over every run of changes of its three subscriptions, diag holds the last
status without `Testing` delivered for "global" since the last delete: the status
`lastGlobalStatus` says each subscriber of the `DeviceNetworkStatus` should hold. -/
theorem diagRun_status (pacContents : Bool) (server : String) (evs : List DiagEvent) :
    (diagRun env (init true pacContents server) evs).DeviceNetworkStatus =
      lastGlobalStatus {} (evs.filterMap DiagEvent.dns?) :=
  diagRun_status_of_forever env evs _ rfl

end DiagAgent

/-! ## A `Testing` snapshot at the three subscribers -/

namespace WSTunnelClient

/-- The first delivery is a `Testing` snapshot: ledmanager and diag keep the empty status,
while wstunnelclient adopts the snapshot, counts its address and marks itself
initialized. -/
theorem handleDNSModify_adopts_testing (env : DiagEnv) :
    lastGlobalStatus {} [.modify "global" testingStatus] = {} ∧
      (LedManager.handleDNS {} (.modify "global" testingStatus)).deviceNetworkStatus = {} ∧
      (DiagAgent.handleDNSModify env {} "global" testingStatus).DeviceNetworkStatus = {} ∧
      handleDNS {} (.modify "global" testingStatus) =
        { deviceNetworkStatus := testingStatus, DNSinitialized := true, usableAddressCount := 1 } :=
  ⟨by decide, by decide, by simp [DiagAgent.handleDNSModify, testingStatus], by decide⟩

end WSTunnelClient

end GoProvision
