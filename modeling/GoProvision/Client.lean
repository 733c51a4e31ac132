import GoProvision.Types
import Mathlib.Data.List.Chain

/-!
# GoProvision — the client's network status and its LED updates

The client agent builds a `DeviceNetworkStatus` from the `DeviceNetworkConfig` of its
hardware model (`handleDNCModify`) and drops it when the config goes
(`handleDNCDelete`). After each change of the status, `doDNSUpdate` tells ledmanager
through `UpdateLedManagerConfig` when the status loses its last usable address (counter
1) or gains its first (counter 2).

`MakeDeviceNetworkStatus` is called here with a `DeviceNetworkConfig`, a version not in
the source; it is a parameter. `reflect.DeepEqual` is equality of the modelled records.

Main results:

* `client_led_tracks_addresses` — over every run of config changes, the last counter
  the client wrote says whether the status it holds has a usable address, the counters
  it wrote alternate, and the first is 2: none is written before a first usable address.
-/

namespace GoProvision

/-- `types.DeviceNetworkConfig`: the interfaces of the hardware model. -/
structure DeviceNetworkConfig where
  Uplink : List String := []
  FreeUplinks : List String := []
  deriving DecidableEq, Repr

/-- `clientContext`, not in the source: the fields the handlers read and write;
`ledConfigs` holds the counters `UpdateLedManagerConfig` wrote, the latest first. -/
structure ClientContext where
  manufacturerModel : String := ""
  deviceNetworkConfig : DeviceNetworkConfig := {}
  deviceNetworkStatus : DeviceNetworkStatus := {}
  usableAddressCount : Nat := 0
  ledConfigs : List Int := []
  deriving DecidableEq, Repr

namespace Client

/-- `doDNSUpdate`: counter 1 when the status loses its last usable address, 2 when it
gains its first. -/
def doDNSUpdate (ctx : ClientContext) : ClientContext :=
  let newAddrCount := CountLocalAddrAnyNoLinkLocal ctx.deviceNetworkStatus
  let ctx :=
    if newAddrCount = 0 ∧ ctx.usableAddressCount ≠ 0 then { ctx with ledConfigs := 1 :: ctx.ledConfigs }
    else if newAddrCount ≠ 0 ∧ ctx.usableAddressCount = 0 then
      { ctx with ledConfigs := 2 :: ctx.ledConfigs }
    else ctx
  { ctx with usableAddressCount := newAddrCount }

section Handlers

variable (MakeDeviceNetworkStatus : DeviceNetworkConfig → DeviceNetworkStatus → DeviceNetworkStatus)

/-- `handleDNCModify`: only the config of the hardware model counts. -/
def handleDNCModify (ctx : ClientContext) (configFilename : String)
    (config : DeviceNetworkConfig) : ClientContext :=
  if configFilename ≠ ctx.manufacturerModel then ctx else
  let ctx := { ctx with deviceNetworkConfig := config }
  let new := MakeDeviceNetworkStatus config ctx.deviceNetworkStatus
  if ctx.deviceNetworkStatus ≠ new then doDNSUpdate { ctx with deviceNetworkStatus := new }
  else ctx

/-- `handleDNCDelete`: only "global" counts. -/
def handleDNCDelete (ctx : ClientContext) (configFilename : String) : ClientContext :=
  if configFilename ≠ "global" then ctx else
  let new : DeviceNetworkStatus := {}
  if ctx.deviceNetworkStatus ≠ new then doDNSUpdate { ctx with deviceNetworkStatus := new }
  else ctx

/-- A change of the `DeviceNetworkConfig` subscription. -/
inductive DNCEvent
  | modify (configFilename : String) (config : DeviceNetworkConfig)
  | delete (configFilename : String)
  deriving DecidableEq, Repr

def dncStep (ctx : ClientContext) : DNCEvent → ClientContext
  | .modify configFilename config => handleDNCModify MakeDeviceNetworkStatus ctx configFilename config
  | .delete configFilename => handleDNCDelete ctx configFilename

def dncRun (ctx : ClientContext) (evs : List DNCEvent) : ClientContext :=
  evs.foldl (dncStep MakeDeviceNetworkStatus) ctx

end Handlers

/-! ## The LED counters -/

variable (MakeDeviceNetworkStatus : DeviceNetworkConfig → DeviceNetworkStatus → DeviceNetworkStatus)

/-- What the client keeps: the count is the status's; the last counter written is 1 with
no usable address and 2 otherwise; counters alternate; the first counter written is 2;
and while none is written the count is 0. -/
structure LedTracks (ctx : ClientContext) : Prop where
  count : ctx.usableAddressCount = CountLocalAddrAnyNoLinkLocal ctx.deviceNetworkStatus
  last : ∀ v, ctx.ledConfigs.head? = some v → v = if ctx.usableAddressCount = 0 then 1 else 2
  alternate : ctx.ledConfigs.Chain' (· ≠ ·)
  first : ∀ v, ctx.ledConfigs.getLast? = some v → v = 2
  unwritten : ctx.ledConfigs = [] → ctx.usableAddressCount = 0

namespace LedTracks

theorem init (model : String) : LedTracks { manufacturerModel := model } :=
  ⟨rfl, (fun _ h => nomatch h), List.chain'_nil, (fun _ h => nomatch h), fun _ => rfl⟩

/-- `doDNSUpdate` restores the invariant after the status changed, from the counters
written for the old count. -/
theorem doDNSUpdate {ctx : ClientContext}
    (hlast : ∀ v, ctx.ledConfigs.head? = some v → v = if ctx.usableAddressCount = 0 then 1 else 2)
    (halt : ctx.ledConfigs.Chain' (· ≠ ·)) (hfirst : ∀ v, ctx.ledConfigs.getLast? = some v → v = 2)
    (hun : ctx.ledConfigs = [] → ctx.usableAddressCount = 0) :
    LedTracks (Client.doDNSUpdate ctx) := by
  simp only [Client.doDNSUpdate]
  split_ifs with hlost hgained
  · -- the last usable address went: counter 1, after a 2, so not the first
    have hne : ctx.ledConfigs ≠ [] := fun h => hlost.2 (hun h)
    refine ⟨rfl, fun v hv => ?_, List.chain'_cons'.2 ⟨fun y hy => ?_, halt⟩, fun v hv => ?_,
      fun h => nomatch h⟩
    · cases hv
      simp [hlost.1]
    · rw [hlast y hy, if_neg hlost.2]
      decide
    · obtain ⟨w, hw⟩ := Option.isSome_iff_exists.1 (List.getLast?_isSome.2 hne)
      simp only [List.getLast?_cons, hw, Option.getD_some, Option.some.injEq] at hv
      exact hv ▸ hfirst w hw
  · -- the first usable address came: counter 2, after a 1
    refine ⟨rfl, fun v hv => ?_, List.chain'_cons'.2 ⟨fun y hy => ?_, halt⟩, fun v hv => ?_,
      fun h => nomatch h⟩
    · cases hv
      simp [hgained.1]
    · rw [hlast y hy, if_pos hgained.2]
      decide
    · cases hl : ctx.ledConfigs.getLast? with
      | none => simpa [List.getLast?_cons, hl] using hv.symm
      | some w => simp only [List.getLast?_cons, hl, Option.getD_some, Option.some.injEq] at hv
                  exact hv ▸ hfirst w hl
  · -- no usable address before and after, or some before and after: nothing written
    have hsame : CountLocalAddrAnyNoLinkLocal ctx.deviceNetworkStatus = 0 ↔
        ctx.usableAddressCount = 0 := by omega
    refine ⟨rfl, fun v hv => ?_, halt, hfirst, fun h => hsame.2 (hun h)⟩
    simp only [hlast v hv, hsame]

/-- Every handled change keeps the invariant. -/
theorem step {ctx : ClientContext} (hi : LedTracks ctx) (e : DNCEvent) :
    LedTracks (dncStep MakeDeviceNetworkStatus ctx e) := by
  cases e with
  | modify configFilename config =>
    simp only [dncStep, handleDNCModify]
    split_ifs
    · exact hi
    · exact LedTracks.doDNSUpdate hi.last hi.alternate hi.first hi.unwritten
    · exact ⟨hi.count, hi.last, hi.alternate, hi.first, hi.unwritten⟩
  | delete configFilename =>
    simp only [dncStep, handleDNCDelete]
    split_ifs
    · exact hi
    · exact LedTracks.doDNSUpdate hi.last hi.alternate hi.first hi.unwritten
    · exact hi

theorem run {ctx : ClientContext} (hi : LedTracks ctx) (evs : List DNCEvent) :
    LedTracks (dncRun MakeDeviceNetworkStatus ctx evs) := by
  induction evs generalizing ctx with
  | nil => exact hi
  | cons e evs ih => exact ih (hi.step MakeDeviceNetworkStatus e)

end LedTracks

/-- Over every run of `DeviceNetworkConfig` changes, whatever statuses
`MakeDeviceNetworkStatus` builds, the client's count is the usable addresses of the
status it holds; the last counter it wrote to ledmanager is 1 when there is none and 2
otherwise; the counters it wrote alternate between the two; and the first it wrote is 2,
so it writes none until a first usable address. -/
theorem client_led_tracks_addresses (model : String) (evs : List DNCEvent) :
    LedTracks (dncRun MakeDeviceNetworkStatus { manufacturerModel := model } evs) :=
  (LedTracks.init model).run MakeDeviceNetworkStatus evs

end Client

end GoProvision
