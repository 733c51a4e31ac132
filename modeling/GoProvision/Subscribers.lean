import GoProvision.Types

/-!
# GoProvision — subscribers of the DeviceNetworkStatus

Three agents subscribe to the `DeviceNetworkStatus` nim publishes under the key
"global": ledmanager, which merges the number of usable addresses with the LED counter
into the blink count it sends to its blink goroutine; diag, which prints the status (its
model is `DiagAgent`); and wstunnelclient, which keeps the status for its tunnel. Each has
a `handleDNSModify` and a `handleDNSDelete`. Nim marks the snapshot of a candidate under
test with `Testing`; ledmanager and diag ignore such snapshots, wstunnelclient does not.

Main results:

* `tracks_lastGlobalStatus` — one induction for all three: a handler that keeps its state
  related to the expected status keeps it so over any deliveries.
* `LedManager.run_status` — after any deliveries, ledmanager holds, up to `cmp.Equal`
  (its own test for a change), the last status without `Testing` delivered since the
  last delete.
* `LedManager.run_leds` — over any LED and status events, the usable address count is
  zero exactly when the stored status has no usable address; the LED is first updated
  at the first event that `startsLed`, and from then on the last blink count sent is 1
  without a usable address and `max 2 ledCounter` otherwise.
-/

namespace GoProvision

/-- A delivery of the `DeviceNetworkStatus` subscription. -/
inductive DNSDelivery
  | modify (key : String) (status : DeviceNetworkStatus)
  | delete (key : String)
  deriving DecidableEq, Repr

/-- The status a subscriber should hold after one delivery, from `s`. -/
def DNSDelivery.expect (s : DeviceNetworkStatus) : DNSDelivery → DeviceNetworkStatus
  | .modify key status => if key = "global" ∧ status.Testing = false then status else s
  | .delete key => if key = "global" then {} else s

/-- The last status without `Testing` delivered for "global" since the last delete of
"global", or `s` when there is none. -/
def lastGlobalStatus (s : DeviceNetworkStatus) (ds : List DNSDelivery) : DeviceNetworkStatus :=
  ds.foldl (fun s d => d.expect s) s

/-- A delivery that is not a `Testing` snapshot. -/
def DNSDelivery.NotTesting : DNSDelivery → Prop
  | .modify _ status => status.Testing = false
  | .delete _ => True

/-- If every handled delivery satisfying `P` keeps the relation `R` between a subscriber's
state and the expected status, then so does every run of such deliveries. -/
theorem tracks_lastGlobalStatus {C : Type} (step : C → DNSDelivery → C)
    (R : C → DeviceNetworkStatus → Prop) (P : DNSDelivery → Prop)
    (hstep : ∀ c s d, P d → R c s → R (step c d) (d.expect s)) :
    ∀ (ds : List DNSDelivery) (c : C) (s : DeviceNetworkStatus), (∀ d ∈ ds, P d) → R c s →
      R (ds.foldl step c) (lastGlobalStatus s ds)
  | [], _, _, _, h => h
  | d :: ds, c, s, hP, h =>
    tracks_lastGlobalStatus step R P hstep ds _ _ (fun d' hd' => hP d' (.tail _ hd'))
      (hstep c s d (hP d (.head _)) h)

/-! ## ledmanager -/

/-- `ledManagerContext` without its subscriptions; `countChange` holds the values sent on
the channel to the blink goroutine, the latest first. -/
structure LedManagerContext where
  ledCounter : Int := 0
  deviceNetworkStatus : DeviceNetworkStatus := {}
  usableAddressCount : Nat := 0
  derivedLedCounter : Int := 0
  countChange : List Int := []
  deriving DecidableEq, Repr

namespace LedManager

/-- `updateDerivedLedCounter`: merge the usable addresses with the LED counter and send
the result to the blink goroutine. -/
def updateDerivedLedCounter (ctx : LedManagerContext) : LedManagerContext :=
  let derived := if ctx.usableAddressCount = 0 then 1
    else if ctx.ledCounter < 2 then 2 else ctx.ledCounter
  { ctx with derivedLedCounter := derived, countChange := derived :: ctx.countChange }

def handleLedBlinkModify (ctx : LedManagerContext) (key : String) (config : LedBlinkCounter) :
    LedManagerContext :=
  if key ≠ "ledconfig" then ctx
  else if config.BlinkCounter = ctx.ledCounter then ctx
  else updateDerivedLedCounter { ctx with ledCounter := config.BlinkCounter }

def handleLedBlinkDelete (ctx : LedManagerContext) (key : String) : LedManagerContext :=
  if key ≠ "ledconfig" then ctx
  else updateDerivedLedCounter { ctx with ledCounter := 0 }

/-- The tail of both DNS handlers: store the status and count its usable addresses; the
count is recorded, and the LED updated, only when it crosses zero. -/
def storeStatus (ctx : LedManagerContext) (status : DeviceNetworkStatus) : LedManagerContext :=
  let ctx := { ctx with deviceNetworkStatus := status }
  let newAddrCount := CountLocalAddrAnyNoLinkLocal ctx.deviceNetworkStatus
  if (ctx.usableAddressCount == 0 && newAddrCount != 0) ||
      (ctx.usableAddressCount != 0 && newAddrCount == 0) then
    updateDerivedLedCounter { ctx with usableAddressCount := newAddrCount }
  else ctx

def handleDNSModify (ctx : LedManagerContext) (key : String) (status : DeviceNetworkStatus) :
    LedManagerContext :=
  if key ≠ "global" then ctx
  else if status.Testing then ctx
  else if ctx.deviceNetworkStatus.cmpEqual status then ctx
  else storeStatus ctx status

def handleDNSDelete (ctx : LedManagerContext) (key : String) : LedManagerContext :=
  if key ≠ "global" then ctx
  else storeStatus ctx {}

/-- A delivery of the `DeviceNetworkStatus` subscription to ledmanager. -/
def handleDNS (ctx : LedManagerContext) : DNSDelivery → LedManagerContext
  | .modify key status => handleDNSModify ctx key status
  | .delete key => handleDNSDelete ctx key

/-- The events ledmanager's loop handles: its two subscriptions. -/
inductive LedEvent
  | ledBlinkModify (key : String) (config : LedBlinkCounter)
  | ledBlinkDelete (key : String)
  | dns (d : DNSDelivery)
  deriving DecidableEq, Repr

def handleEvent (ctx : LedManagerContext) : LedEvent → LedManagerContext
  | .ledBlinkModify key config => handleLedBlinkModify ctx key config
  | .ledBlinkDelete key => handleLedBlinkDelete ctx key
  | .dns d => handleDNS ctx d

@[simp] theorem storeStatus_deviceNetworkStatus (ctx : LedManagerContext)
    (status : DeviceNetworkStatus) : (storeStatus ctx status).deviceNetworkStatus = status := by
  simp only [storeStatus]; split <;> rfl

/-- ledmanager keeps, up to `cmp.Equal`, the status it should hold. -/
theorem handleDNS_tracks (ctx : LedManagerContext) (s : DeviceNetworkStatus) (d : DNSDelivery)
    (h : ctx.deviceNetworkStatus.cmpEqual s = true) :
    (handleDNS ctx d).deviceNetworkStatus.cmpEqual (d.expect s) = true := by
  cases d with
  | modify key status =>
    simp only [handleDNS, handleDNSModify, DNSDelivery.expect]
    split_ifs <;> simp_all [DeviceNetworkStatus.cmpEqual_refl]
  | delete key =>
    simp only [handleDNS, handleDNSDelete, DNSDelivery.expect]
    split_ifs <;> simp_all [DeviceNetworkStatus.cmpEqual_refl]

/-- After any deliveries, ledmanager holds, up to `cmp.Equal`, the last status without
`Testing` delivered since the last delete. -/
theorem run_status (ds : List DNSDelivery) :
    (ds.foldl handleDNS {}).deviceNetworkStatus.cmpEqual (lastGlobalStatus {} ds) = true :=
  tracks_lastGlobalStatus handleDNS (fun c s => c.deviceNetworkStatus.cmpEqual s = true)
    (fun _ => True) (fun c s d _ h => handleDNS_tracks c s d h) ds {} {} (fun _ _ => trivial)
    (DeviceNetworkStatus.cmpEqual_refl _)

/-- The events that call `updateDerivedLedCounter` from ledmanager's start, where the LED
counter is 0 and no address is usable: a new LED counter, its delete, and a status with a
usable address. The first of them in a run is the first call. -/
def LedEvent.startsLed : LedEvent → Bool
  | .ledBlinkModify key config => key == "ledconfig" && config.BlinkCounter != 0
  | .ledBlinkDelete key => key == "ledconfig"
  | .dns (.modify key status) =>
    key == "global" && !status.Testing && CountLocalAddrAnyNoLinkLocal status != 0
  | .dns (.delete _) => false

/-- The LED invariant: the usable address count is zero exactly when the stored status
has no usable address; once the LED was updated, the last value sent is the derived
counter, 1 without a usable address and `max 2 ledCounter` otherwise; and until then the
counters are at their start. -/
structure Inv (ctx : LedManagerContext) : Prop where
  usable : ctx.usableAddressCount = 0 ↔ CountLocalAddrAnyNoLinkLocal ctx.deviceNetworkStatus = 0
  sent : ctx.countChange ≠ [] → ctx.countChange.head? = some ctx.derivedLedCounter ∧
    ctx.derivedLedCounter = if ctx.usableAddressCount = 0 then 1 else max 2 ctx.ledCounter
  fresh : ctx.countChange = [] →
    ctx.ledCounter = 0 ∧ ctx.usableAddressCount = 0 ∧ ctx.derivedLedCounter = 0

theorem Inv.init : Inv {} := ⟨by simp, fun h => absurd rfl h, fun _ => ⟨rfl, rfl, rfl⟩⟩

theorem updateDerivedLedCounter_inv {ctx : LedManagerContext}
    (h : ctx.usableAddressCount = 0 ↔ CountLocalAddrAnyNoLinkLocal ctx.deviceNetworkStatus = 0) :
    Inv (updateDerivedLedCounter ctx) where
  usable := h
  sent _ := ⟨rfl, by simp only [updateDerivedLedCounter]; split_ifs <;> omega⟩
  fresh h := nomatch h

/-- Setting the LED counter and updating the LED keeps the invariant. -/
theorem Inv.setLedCounter {ctx : LedManagerContext} (hi : Inv ctx) (n : Int) :
    Inv (updateDerivedLedCounter { ctx with ledCounter := n }) :=
  updateDerivedLedCounter_inv hi.usable

theorem Inv.storeStatus {ctx : LedManagerContext} (hi : Inv ctx) (status : DeviceNetworkStatus) :
    Inv (storeStatus ctx status) := by
  simp only [LedManager.storeStatus]
  split
  · exact updateDerivedLedCounter_inv Iff.rfl
  next hcross =>
    have hsame : ctx.usableAddressCount = 0 ↔ CountLocalAddrAnyNoLinkLocal status = 0 := by
      simp only [Bool.or_eq_true, Bool.and_eq_true, beq_iff_eq, bne_iff_ne, ne_eq] at hcross
      omega
    exact ⟨hsame, hi.sent, hi.fresh⟩

/-- Each handler leaves the context alone, sets the LED counter, or stores a status. -/
theorem Inv.handleEvent {ctx : LedManagerContext} (hi : Inv ctx) (e : LedEvent) :
    Inv (handleEvent ctx e) := by
  rcases e with ⟨key, config⟩ | key | ⟨key, status⟩ | key <;>
    simp only [LedManager.handleEvent, handleLedBlinkModify, handleLedBlinkDelete, handleDNS,
      handleDNSModify, handleDNSDelete] <;>
    split_ifs <;>
    first | exact hi | exact hi.setLedCounter _ | exact hi.storeStatus _

theorem run_inv : ∀ (evs : List LedEvent) (ctx : LedManagerContext), Inv ctx →
    Inv (evs.foldl handleEvent ctx)
  | [], _, hi => hi
  | e :: evs, _, hi => run_inv evs _ (hi.handleEvent e)

/-- `updateDerivedLedCounter` has been called once something was sent. -/
theorem updateDerivedLedCounter_sent (ctx : LedManagerContext) :
    (updateDerivedLedCounter ctx).countChange ≠ [] := nofun

/-- From a context that has sent nothing, storing a status sends exactly when the status
has a usable address: the count can only cross zero upwards. -/
theorem storeStatus_sent_iff {ctx : LedManagerContext} (h0 : ctx.countChange = [])
    (hus : ctx.usableAddressCount = 0) (status : DeviceNetworkStatus) :
    (storeStatus ctx status).countChange ≠ [] ↔ CountLocalAddrAnyNoLinkLocal status ≠ 0 := by
  simp only [LedManager.storeStatus, hus]
  split
  · next hcross => exact iff_of_true (updateDerivedLedCounter_sent _) (by simpa using hcross)
  · next hcross => exact iff_of_false (by simp [h0]) (by simpa using hcross)

/-- A handler sends for the first time exactly on an event that `startsLed`; later ones
only add to what was sent. -/
theorem Inv.handleEvent_sent_iff {ctx : LedManagerContext} (hi : Inv ctx) (e : LedEvent) :
    (LedManager.handleEvent ctx e).countChange ≠ [] ↔ ctx.countChange ≠ [] ∨ e.startsLed = true := by
  by_cases h0 : ctx.countChange = []
  case neg =>
    -- what was sent stays sent
    refine iff_of_true ?_ (.inl h0)
    rcases e with ⟨key, config⟩ | key | ⟨key, status⟩ | key <;>
      simp only [LedManager.handleEvent, handleLedBlinkModify, handleLedBlinkDelete, handleDNS,
        handleDNSModify, handleDNSDelete, LedManager.storeStatus] <;>
      split_ifs <;>
      first | exact h0 | exact updateDerivedLedCounter_sent _
  case pos =>
    obtain ⟨hled, hus, -⟩ := hi.fresh h0
    simp only [h0, ne_eq, not_true_eq_false, false_or]
    rcases e with ⟨key, config⟩ | key | ⟨key, status⟩ | key <;>
      simp only [LedManager.handleEvent, handleLedBlinkModify, handleLedBlinkDelete, handleDNS,
        handleDNSModify, handleDNSDelete, LedEvent.startsLed]
    · -- a new LED counter is one that differs from 0
      by_cases hk : key = "ledconfig" <;> by_cases hc : config.BlinkCounter = 0 <;>
        simp [hk, hc, hled, h0, updateDerivedLedCounter_sent]
    · by_cases hk : key = "ledconfig" <;> simp [hk, h0, updateDerivedLedCounter_sent]
    · -- a status `cmp.Equal` to the stored one has no usable address either
      split_ifs with hk ht hce
      · simp [hk, h0]
      · simp [ht, h0]
      · rw [← DeviceNetworkStatus.cmpEqual_count hce, hi.usable.1 hus]
        simp [h0]
      · simpa [not_not.1 hk, ht] using storeStatus_sent_iff h0 hus status
    · -- a delete stores the empty status, which has no usable address
      split_ifs
      · simp [h0]
      · simpa using storeStatus_sent_iff h0 hus {}

/-- Over a run, something was sent exactly when it was before or an event `startsLed`. -/
theorem run_sent_iff : ∀ (evs : List LedEvent) (ctx : LedManagerContext), Inv ctx →
    ((evs.foldl handleEvent ctx).countChange ≠ [] ↔ ctx.countChange ≠ [] ∨ evs.any LedEvent.startsLed)
  | [], _, _ => by simp
  | e :: evs, ctx, hi => by
    rw [List.foldl_cons, run_sent_iff evs _ (hi.handleEvent e), hi.handleEvent_sent_iff e,
      List.any_cons, Bool.or_eq_true, or_assoc]

/-- Over any LED counter and network status events from ledmanager's start, the usable
address count is zero exactly when the stored status has no address that is not
link-local; `updateDerivedLedCounter` has run exactly when an event that `startsLed` was
handled; and from then on the last blink count sent is the derived counter: 1 without
such an address, `max 2 ledCounter` otherwise. -/
theorem run_leds (evs : List LedEvent) :
    let ctx := evs.foldl handleEvent {}
    let noUsable := ∀ p ∈ ctx.deviceNetworkStatus.Ports, ∀ ai ∈ p.AddrInfoList,
      ai.Addr.IsLinkLocalUnicast = true
    (ctx.usableAddressCount = 0 ↔ noUsable) ∧
      (ctx.countChange ≠ [] ↔ evs.any LedEvent.startsLed = true) ∧
      (evs.any LedEvent.startsLed = true →
        ctx.countChange.head? = some ctx.derivedLedCounter ∧
          ctx.derivedLedCounter = if noUsable then 1 else max 2 ctx.ledCounter) := by
  intro ctx noUsable
  have hi := run_inv evs {} Inv.init
  have husable : ctx.usableAddressCount = 0 ↔ noUsable :=
    hi.usable.trans (CountLocalAddrAnyNoLinkLocal_eq_zero _)
  have hsent : ctx.countChange ≠ [] ↔ evs.any LedEvent.startsLed = true := by
    simpa using run_sent_iff evs {} Inv.init
  refine ⟨husable, hsent, fun hs => ?_⟩
  simp only [← husable]
  exact hi.sent (hsent.2 hs)

end LedManager

/-! ## wstunnelclient -/

/-- `DNSContext` of wstunnelclient, without its subscription. -/
structure DNSContext where
  usableAddressCount : Nat := 0
  DNSinitialized : Bool := false
  deviceNetworkStatus : DeviceNetworkStatus := {}
  deriving DecidableEq, Repr

namespace WSTunnelClient

/-- `handleDNSModify` of wstunnelclient, which does not look at `Testing`. -/
def handleDNSModify (ctx : DNSContext) (key : String) (status : DeviceNetworkStatus) :
    DNSContext :=
  if key ≠ "global" then ctx
  else if ctx.deviceNetworkStatus.cmpEqual status then ctx
  else { ctx with deviceNetworkStatus := status, DNSinitialized := true,
                  usableAddressCount := CountLocalAddrAnyNoLinkLocal status }

def handleDNSDelete (ctx : DNSContext) (key : String) : DNSContext :=
  if key ≠ "global" then ctx
  else { ctx with deviceNetworkStatus := {}, DNSinitialized := false,
                  usableAddressCount := CountLocalAddrAnyNoLinkLocal {} }

/-- A delivery of the `DeviceNetworkStatus` subscription to wstunnelclient. -/
def handleDNS (ctx : DNSContext) : DNSDelivery → DNSContext
  | .modify key status => handleDNSModify ctx key status
  | .delete key => handleDNSDelete ctx key

/-- What wstunnelclient keeps: up to `cmp.Equal` the status it should hold, and the usable
address count of the status it holds. -/
def Tracks (ctx : DNSContext) (s : DeviceNetworkStatus) : Prop :=
  ctx.deviceNetworkStatus.cmpEqual s = true ∧
    ctx.usableAddressCount = CountLocalAddrAnyNoLinkLocal ctx.deviceNetworkStatus

theorem handleDNS_tracks (ctx : DNSContext) (s : DeviceNetworkStatus) (d : DNSDelivery)
    (hd : d.NotTesting) (h : Tracks ctx s) : Tracks (handleDNS ctx d) (d.expect s) := by
  cases d with
  | modify key status =>
    simp only [DNSDelivery.NotTesting] at hd
    simp only [handleDNS, handleDNSModify, DNSDelivery.expect, hd, and_true]
    split_ifs <;> simp_all [Tracks, DeviceNetworkStatus.cmpEqual_refl]
  | delete key =>
    simp only [handleDNS, handleDNSDelete, DNSDelivery.expect]
    split_ifs <;> simp_all [Tracks, DeviceNetworkStatus.cmpEqual_refl]

/-- A `Testing` snapshot of a candidate under test, with one usable address on `eth0`. -/
def testingStatus : DeviceNetworkStatus :=
  { Version := DPCIsMgmt, Testing := true,
    Ports := [{ IfName := "eth0", IsMgmt := true, Free := true,
                AddrInfoList := [{ Addr := ⟨[192, 168, 1, 10]⟩ }] }] }

/-- Over deliveries without a `Testing` snapshot, wstunnelclient holds, up to `cmp.Equal`,
the last status delivered since the last delete. -/
theorem run_status_of_notTesting (ds : List DNSDelivery) (hds : ∀ d ∈ ds, d.NotTesting) :
    Tracks (ds.foldl handleDNS {}) (lastGlobalStatus {} ds) :=
  tracks_lastGlobalStatus handleDNS Tracks DNSDelivery.NotTesting handleDNS_tracks ds {} {} hds
    ⟨DeviceNetworkStatus.cmpEqual_refl _, rfl⟩

/-- The snapshot once the candidate is in use, delivered without `Testing`. -/
theorem run_status_of_notTesting_committed :
    (∀ d ∈ [DNSDelivery.modify "global" { testingStatus with Testing := false }], d.NotTesting) ∧
      Tracks ([DNSDelivery.modify "global" { testingStatus with Testing := false }].foldl
          handleDNS {})
        (lastGlobalStatus {} [.modify "global" { testingStatus with Testing := false }]) :=
  ⟨by simp [DNSDelivery.NotTesting], run_status_of_notTesting _ (by simp [DNSDelivery.NotTesting])⟩

end WSTunnelClient

end GoProvision
