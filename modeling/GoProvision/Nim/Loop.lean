import GoProvision.DeviceNetwork.AddrChange

/-!
# GoProvision — nim's event loop and the periodic connectivity test

After its setup, `Run` of nim loops over a `select` whose cases react to the
subscriptions, to address changes, and to four timers: geolocation, the pending
candidate's test, the periodic network test, and the "try to do better" test. The model
has one `NimEvent` per case that touches the device network context and runs them with
`nimStep`.

The functions of `dpc.go` that the loop calls (`RestartVerify`, `VerifyDevicePortConfig`,
`DoDNSUpdate`, and the subscription handlers) are not in the source. They are parameters
acting on the `DeviceNetworkContext`; `CloudConnectivityWorks` is kept beside it, since
the spec has it written by the periodic check alone and the source writes it only in
`Run` and `tryDeviceConnectivityToCloud`.

Main results:

* `nimRun_cloudConnectivityWorks` — along every run, `CloudConnectivityWorks` is what the
  last periodic test said, or what it was when there was none.
* `tryDeviceConnectivityToCloud_restarts_after_two_failures` — a failing test restarts
  verification exactly when the test before it failed too and no verification is in
  progress; a first failure only clears the flag and re-arms the timer.
* `waitForDeviceNetworkConfigFile_eq` — before its setup, nim waits for the
  `DeviceNetworkConfig` of its hardware model, falls back to `default` after 120 tries,
  and blinks 11 once per failed try; the loop is the search for the first try that finds
  its file, and waits for ever when none does.
-/

namespace GoProvision

/-- What nim's loop holds: the device network context, `CloudConnectivityWorks`, and the
address cache of `devicenetwork`. -/
structure NimState where
  dnc : DeviceNetworkContext
  CloudConnectivityWorks : Bool
  cache : AddrCache

/-- The network test timer armed for the next slot, `NetworkTestInterval` seconds on. -/
def DeviceNetworkContext.rearmNetworkTest (dnc : DeviceNetworkContext) (now : Int) :
    DeviceNetworkContext :=
  { dnc with NetworkTestTimer := some (now + dnc.NetworkTestInterval * Second) }

/-- The state `Run` enters its loop with at time `start`: the network test timer armed,
connectivity assumed to work, and the address cache empty. -/
def NimState.init (dnc : DeviceNetworkContext) (start : Int) : NimState :=
  { dnc := dnc.rearmNetworkTest start, CloudConnectivityWorks := true,
    cache := IfindexToAddrsInit }

/-- The state once the network test timer has fired. -/
def NimState.fireNetworkTest (s : NimState) : NimState :=
  { s with dnc := { s.dnc with NetworkTestTimer := none } }

section Loop

variable (RestartVerify : String → DeviceNetworkContext → DeviceNetworkContext)

/-- `tryDeviceConnectivityToCloud`, given the outcome `pass` of
`VerifyDeviceNetworkStatus` and the time `now`; `none` is the panic of
`PortConfigList[NextDPCIndex]` at a negative index (which is below the length). A pass
sets `LastSucceeded` on `cur`, a copy of the list entry, and drops the copy. -/
def tryDeviceConnectivityToCloud (now : Int) (pass : Bool) (ctx : NimState) :
    Option (Bool × NimState) :=
  if pass then
    if ctx.dnc.NextDPCIndex < 0 then none
    else some (true, { ctx with CloudConnectivityWorks := true, dnc := ctx.dnc.rearmNetworkTest now })
  else if !ctx.CloudConnectivityWorks then
    if ctx.dnc.Pending.Inprogress then some (false, ctx)
    else some (false, { ctx with dnc := RestartVerify "tryDeviceConnectivityToCloud" ctx.dnc })
  else
    some (false, { ctx with dnc := ctx.dnc.rearmNetworkTest now, CloudConnectivityWorks := false })

/-- The cases of nim's `select` that touch the device network context, each with what it
brings from outside. `subscription` stands for any handler of the `DevicePortConfig`,
`DeviceNetworkConfig` and `AssignableAdapters` subscriptions. -/
inductive NimEvent
  | subscription (handler : DeviceNetworkContext → DeviceNetworkContext)
  | addrChange (now : Int) (MyIPWithOptions : IP → Except String IPInfo) (change : AddrUpdate)
  | geoTimer (now : Int) (MyIPWithOptions : IP → Except String IPInfo)
  | pendTimer
  | networkTestTimer (now : Int) (pass : Bool)
  | networkTestBetterTimer

variable (env : StatusEnv)
  (DoDNSUpdate VerifyDevicePortConfig : DeviceNetworkContext → DeviceNetworkContext)
  (geoRedoTime : Int)

/-- One pass of nim's loop: `none` when the event cannot come (the network test timer is
not due) or its case panics. A fired network test timer stays spent unless re-armed. -/
def nimStep (s : NimState) : NimEvent → Option NimState
  | .subscription handler => some { s with dnc := handler s.dnc }
  | .addrChange now svc change =>
    let r := AddrChange { env with ifindexToAddrs := s.cache } svc now DoDNSUpdate
      VerifyDevicePortConfig s.dnc change
    some { s with cache := r.1, dnc := r.2 }
  | .geoTimer now svc =>
    some { s with dnc := { s.dnc with DeviceNetworkStatus :=
      (UpdateDeviceNetworkGeo svc now geoRedoTime s.dnc.DeviceNetworkStatus).1 } }
  | .pendTimer => some { s with dnc := VerifyDevicePortConfig s.dnc }
  | .networkTestTimer now pass =>
    match s.dnc.NetworkTestTimer with
    | some due =>
      if due ≤ now then (tryDeviceConnectivityToCloud RestartVerify now pass s.fireNetworkTest).map (·.2)
      else none
    | none => none
  | .networkTestBetterTimer =>
    if s.dnc.NextDPCIndex = 0 then some s
    else some { s with dnc := RestartVerify "NetworkTestBetterTimer" s.dnc }

/-- The loop over a list of events. -/
def nimRun (s : NimState) : List NimEvent → Option NimState
  | [] => some s
  | e :: es =>
    (nimStep RestartVerify env DoDNSUpdate VerifyDevicePortConfig geoRedoTime s e).bind
      fun s' => nimRun s' es

end Loop

/-- `CloudConnectivityWorks` after an event: the outcome of a periodic test, otherwise `c`. -/
def NimEvent.outcome (c : Bool) : NimEvent → Bool
  | .networkTestTimer _ pass => pass
  | _ => c

/-- What the last periodic test among the events said, or `c` when there was none. -/
def lastOutcome (c : Bool) : List NimEvent → Bool
  | [] => c
  | e :: es => lastOutcome (e.outcome c) es

/-! ## The periodic test -/

section Test

variable {RestartVerify : String → DeviceNetworkContext → DeviceNetworkContext}

/-- A passing test re-arms the timer and sets the flag, and nothing else. -/
theorem tryDeviceConnectivityToCloud_pass {now : Int} {ctx : NimState} {r : Bool × NimState}
    (h : tryDeviceConnectivityToCloud RestartVerify now true ctx = some r) :
    r = (true, { ctx with CloudConnectivityWorks := true, dnc := ctx.dnc.rearmNetworkTest now }) := by
  unfold tryDeviceConnectivityToCloud at h
  rw [if_pos rfl] at h
  split_ifs at h
  exact (Option.some_inj.1 h).symm

/-- A failing test clears the flag and re-arms the timer when the flag was set, and
otherwise restarts verification unless one is in progress. -/
theorem tryDeviceConnectivityToCloud_fail (now : Int) (ctx : NimState) :
    tryDeviceConnectivityToCloud RestartVerify now false ctx = some (false,
      if ctx.CloudConnectivityWorks then
        { ctx with dnc := ctx.dnc.rearmNetworkTest now, CloudConnectivityWorks := false }
      else if ctx.dnc.Pending.Inprogress then ctx
      else { ctx with dnc := RestartVerify "tryDeviceConnectivityToCloud" ctx.dnc }) := by
  cases hc : ctx.CloudConnectivityWorks
  · simp only [tryDeviceConnectivityToCloud, hc, Bool.not_false, Bool.false_eq_true, if_true,
      if_false]
    split <;> rfl
  · simp [tryDeviceConnectivityToCloud, hc]

/-- After a test, the flag says whether it passed. -/
theorem tryDeviceConnectivityToCloud_works {now : Int} {pass : Bool} {ctx : NimState}
    {r : Bool × NimState} (h : tryDeviceConnectivityToCloud RestartVerify now pass ctx = some r) :
    r.2.CloudConnectivityWorks = pass := by
  cases pass
  · rw [tryDeviceConnectivityToCloud_fail, Option.some_inj] at h
    subst h
    cases hc : ctx.CloudConnectivityWorks <;> simp only [hc, if_false, if_true, Bool.false_eq_true]
    split_ifs <;> simp [hc]
  · rw [tryDeviceConnectivityToCloud_pass h]

end Test

/-! ## Runs of the loop -/

section Runs

variable {RestartVerify : String → DeviceNetworkContext → DeviceNetworkContext} {env : StatusEnv}
  {DoDNSUpdate VerifyDevicePortConfig : DeviceNetworkContext → DeviceNetworkContext}
  {geoRedoTime : Int}

/-- Only the network test timer's case writes `CloudConnectivityWorks`, and it writes the
test's outcome. -/
theorem nimStep_cloudConnectivityWorks {s s' : NimState} {e : NimEvent}
    (h : nimStep RestartVerify env DoDNSUpdate VerifyDevicePortConfig geoRedoTime s e = some s') :
    s'.CloudConnectivityWorks = e.outcome s.CloudConnectivityWorks := by
  cases e with
  | networkTestTimer now pass =>
    simp only [nimStep] at h
    split at h
    · split_ifs at h
      obtain ⟨r, hr, rfl⟩ := Option.map_eq_some'.1 h
      exact tryDeviceConnectivityToCloud_works hr
    · cases h
  | networkTestBetterTimer =>
    simp only [nimStep] at h
    split_ifs at h <;> cases h <;> rfl
  | _ => cases h; rfl

/-- Along a run, `CloudConnectivityWorks` is what the last periodic test said. -/
theorem nimRun_cloudConnectivityWorks : ∀ (evs : List NimEvent) (s s' : NimState),
    nimRun RestartVerify env DoDNSUpdate VerifyDevicePortConfig geoRedoTime s evs = some s' →
      s'.CloudConnectivityWorks = lastOutcome s.CloudConnectivityWorks evs
  | [], _, _, h => by cases h; rfl
  | e :: es, s, s', h => by
    obtain ⟨s1, h1, h2⟩ := Option.bind_eq_some.1 h
    rw [nimRun_cloudConnectivityWorks es s1 s' h2, nimStep_cloudConnectivityWorks h1]
    rfl

/-- The periodic test of nim's loop, from any state a run from `Run`'s start reaches: a
failing test restarts verification exactly when the test before it failed too and no
verification is in progress; a first failure, or one after a pass, clears the flag and
re-arms the timer; a passing test does neither. -/
theorem tryDeviceConnectivityToCloud_restarts_after_two_failures (dnc : DeviceNetworkContext)
    (start : Int) (evs : List NimEvent) (s : NimState)
    (hrun : nimRun RestartVerify env DoDNSUpdate VerifyDevicePortConfig geoRedoTime
      (NimState.init dnc start) evs = some s) (now : Int) :
    let t := s.fireNetworkTest
    s.CloudConnectivityWorks = lastOutcome true evs ∧
      tryDeviceConnectivityToCloud RestartVerify now false t = some (false,
        if lastOutcome true evs = false then
          if t.dnc.Pending.Inprogress then t
          else { t with dnc := RestartVerify "tryDeviceConnectivityToCloud" t.dnc }
        else { t with dnc := t.dnc.rearmNetworkTest now, CloudConnectivityWorks := false }) ∧
      ∀ r, tryDeviceConnectivityToCloud RestartVerify now true t = some r →
        r = (true, { t with dnc := t.dnc.rearmNetworkTest now, CloudConnectivityWorks := true }) := by
  have hworks : s.CloudConnectivityWorks = lastOutcome true evs :=
    nimRun_cloudConnectivityWorks evs _ s hrun
  refine ⟨hworks, ?_, fun r => tryDeviceConnectivityToCloud_pass⟩
  rw [tryDeviceConnectivityToCloud_fail]
  show some (false, if s.CloudConnectivityWorks then _ else _) = _
  rw [hworks]
  cases lastOutcome true evs <;> rfl

theorem tryDeviceConnectivityToCloud_restarts_after_one_failure :
    nimRun (fun _ dnc => dnc) dhcpEnv id id 0 (NimState.init {} 0) [.networkTestTimer 0 false] =
        some { NimState.init {} 0 with CloudConnectivityWorks := false } ∧
      ({ NimState.init {} 0 with CloudConnectivityWorks := false } : NimState).CloudConnectivityWorks =
        lastOutcome true [.networkTestTimer 0 false] :=
  ⟨rfl, (@tryDeviceConnectivityToCloud_restarts_after_two_failures (fun _ dnc => dnc) dhcpEnv id id 0
    {} 0 [.networkTestTimer 0 false] _ rfl 0).1⟩

/-- One candidate, in use at index 0 and never yet successful, tested every 300 seconds. -/
def testedCtx : DeviceNetworkContext :=
  { DevicePortConfigList := { PortConfigList := [LastResortDevicePortConfig ["eth0"]] },
    NetworkTestInterval := 300 }

/-- The test at 300 s from the start passes, and the entry at `NextDPCIndex` keeps
`LastSucceeded` at zero. -/
theorem nimStep_pass_drops_last_succeeded :
    (nimStep (fun _ dnc => dnc) dhcpEnv id id 0 (NimState.init testedCtx 0)
      (.networkTestTimer (300 * Second) true)).map
        (fun s => s.dnc.DevicePortConfigList.PortConfigList.map (·.LastSucceeded)) = some [0] :=
  rfl

end Runs

/-! ## Waiting for the DeviceNetworkConfig -/

namespace Nim

def tmpDirname : String := "/var/tmp/zededa"
def DNCDirname : String := tmpDirname ++ "/DeviceNetworkConfig"
def DPCOverride : String := tmpDirname ++ "/DevicePortConfig/override.json"

/-- The file `waitForDeviceNetworkConfigFile` looks for. -/
def DNCFilename (model : String) : String := DNCDirname ++ "/" ++ model ++ ".json"

/-- The loop of `waitForDeviceNetworkConfigFile` from try `tries`, for at most `fuel`
more tries; `fileExists t f` says whether `f` exists at try `t`. It returns the model
and the LED counters written, one `UpdateLedManagerConfig(11)` per failed try; `none`
is still waiting. -/
def waitLoop (fileExists : Nat → String → Bool) (model : String) (tries : Nat) :
    Nat → Option (String × List Nat)
  | 0 => none
  | fuel + 1 =>
    if fileExists tries (DNCFilename model) then some (model, []) else
    let tries := tries + 1
    let model := if tries = 120 then "default" else model
    (waitLoop fileExists model tries fuel).map fun (m, leds) => (m, 11 :: leds)

/-- `waitForDeviceNetworkConfigFile`, with `GetHardwareModel`'s answer. -/
def waitForDeviceNetworkConfigFile (fileExists : Nat → String → Bool) (GetHardwareModel : String)
    (fuel : Nat) : Option (String × List Nat) :=
  let model := GetHardwareModel
  if fileExists 0 DPCOverride then some ("default", []) else
  waitLoop fileExists model 0 fuel

/-- The model the loop looks for at try `t`: the hardware's for two minutes of tries,
then `default`. -/
def modelAt (hw : String) (t : Nat) : String := if t < 120 then hw else "default"

theorem modelAt_succ (hw : String) (t : Nat) :
    modelAt hw (t + 1) = if t + 1 = 120 then "default" else modelAt hw t := by
  unfold modelAt
  split_ifs <;> first | rfl | omega

/-- From try `t`, the loop finds the first try whose model's file exists, and blinks 11
once for each try before it. -/
theorem waitLoop_eq (fileExists : Nat → String → Bool) (hw : String) :
    ∀ fuel t, waitLoop fileExists (modelAt hw t) t fuel =
      ((List.range' t fuel).find? fun s => fileExists s (DNCFilename (modelAt hw s))).map
        fun s => (modelAt hw s, List.replicate (s - t) 11)
  | 0, _ => rfl
  | fuel + 1, t => by
    rw [waitLoop]
    dsimp only
    rw [← modelAt_succ, waitLoop_eq fileExists hw fuel (t + 1), List.range'_succ, List.find?_cons]
    cases h : fileExists t (DNCFilename (modelAt hw t))
    · -- a failed try: 11 more, and the search goes on from the next try
      simp only [Bool.false_eq_true, if_false, Option.map_map]
      refine Option.map_congr fun s hs => ?_
      have := List.mem_range'_1.1 (List.mem_of_find?_eq_some hs)
      simp only [Function.comp, Prod.mk.injEq, true_and]
      rw [show s - t = (s - (t + 1)) + 1 by omega, List.replicate_succ]
    · simp

/-- `waitForDeviceNetworkConfigFile` returns `default` at once when the override exists;
otherwise it returns at the first try whose model's file exists, the hardware's model
before 120 tries and `default` from then on, after writing LED counter 11 once for each
try before it, and it waits as long as no such try comes. -/
theorem waitForDeviceNetworkConfigFile_eq (fileExists : Nat → String → Bool) (hw : String)
    (fuel : Nat) :
    waitForDeviceNetworkConfigFile fileExists hw fuel =
      if fileExists 0 DPCOverride then some ("default", [])
      else ((List.range fuel).find? fun s => fileExists s (DNCFilename (modelAt hw s))).map
        fun s => (modelAt hw s, List.replicate s 11) := by
  unfold waitForDeviceNetworkConfigFile
  split_ifs
  · rfl
  · rw [show hw = modelAt hw 0 from rfl, waitLoop_eq, List.range_eq_range']
    simp only [Nat.sub_zero, show modelAt (modelAt hw 0) = modelAt hw from rfl]

example : waitForDeviceNetworkConfigFile (fun t f => t == 2 && f == DNCFilename "Supermicro")
    "Supermicro" 5 = some ("Supermicro", [11, 11]) := by decide

end Nim

end GoProvision
