import GoProvision.Subscribers

/-!
# GoProvision — ledmanager's loop and its blink goroutine

ledmanager's handlers send each new blink count on `countChange`, an unbuffered channel
(`make(chan int)`), to `TriggerBlinkOnDevice`, which runs in a goroutine of its own. Each
pass of its loop takes a value if a sender is waiting (`select` with `default`), blinks
`counter` times and sleeps. A send on an unbuffered channel completes only when the
receiver takes the value, so the handler that sent, and with it ledmanager's loop, waits
for the goroutine's next pass.

The two goroutines are one system here, whose steps are their actions in any
interleaving: the loop handles an event when it is not waiting on a send, and the blink
goroutine makes a pass. The loop's handlers are those of `LedManager`; what a handler
sends is the value it adds to `countChange`.

Main results:

* `LedSystem.Inv.step` — along every interleaving, the values the goroutine has received
  are the values the loop sent, in order, but for the one a waiting send holds: no update
  is lost or taken twice.
* `ledSystem_pass_blinks_derived` — every pass of the goroutine blinks the loop's derived
  counter as it stands: not at all before the loop has handled an event that starts the
  LEDs, and from then on once while the stored status has no usable address and
  `max 2 ledCounter` times otherwise.
-/

namespace GoProvision

/-- ledmanager's loop and `TriggerBlinkOnDevice`: the loop's context, the value its send
on `countChange` waits with, the goroutine's `counter`, the values it received and the
number of blinks of each of its passes, the latest first. -/
structure LedSystem where
  ctx : LedManagerContext := {}
  waiting : Option Int := none
  counter : Int := 0
  received : List Int := []
  passes : List Nat := []
  deriving DecidableEq, Repr

/-- The actions of the two goroutines. -/
inductive LedSystemEvent
  | handle (e : LedManager.LedEvent)
  | pass
  deriving DecidableEq, Repr

/-- One pass of `TriggerBlinkOnDevice`'s loop: take the value a sender waits with, if
any, then blink `counter` times (`for i := 0; i < counter; i++`). -/
def blinkPass (s : LedSystem) : LedSystem :=
  let s := match s.waiting with
    | some v => { s with counter := v, received := v :: s.received, waiting := none }
    | none => s
  { s with passes := s.counter.toNat :: s.passes }

/-- One action: `none` when the loop would handle an event while it waits on its send. -/
def ledSystemStep (s : LedSystem) : LedSystemEvent → Option LedSystem
  | .handle e =>
    match s.waiting with
    | some _ => none
    | none =>
      let ctx := LedManager.handleEvent s.ctx e
      some { s with ctx,
                    waiting := if ctx.countChange.length = s.ctx.countChange.length then none
                      else ctx.countChange.head? }
  | .pass => some (blinkPass s)

@[simp] theorem blinkPass_ctx (s : LedSystem) : (blinkPass s).ctx = s.ctx := by
  unfold blinkPass; split <;> rfl

@[simp] theorem blinkPass_waiting (s : LedSystem) : (blinkPass s).waiting = none := by
  unfold blinkPass; split
  · rfl
  · exact ‹_›

/-- A pass blinks its counter as it stands after the `select`. -/
theorem blinkPass_passes (s : LedSystem) :
    (blinkPass s).passes = (blinkPass s).counter.toNat :: s.passes := by
  unfold blinkPass; split <;> rfl

/-- The two goroutines over a list of actions. -/
def ledSystemRun (s : LedSystem) : List LedSystemEvent → Option LedSystem
  | [] => some s
  | e :: es => (ledSystemStep s e).bind fun s' => ledSystemRun s' es

/-- The event the loop handles in an action, if it is one of the loop's. -/
def LedSystemEvent.handled? : LedSystemEvent → Option LedManager.LedEvent
  | .handle e => some e
  | .pass => none

/-- The loop's context after a run is ledmanager's over the events the run handled. -/
theorem ledSystemRun_ctx {s s' : LedSystem} {evs : List LedSystemEvent}
    (h : ledSystemRun s evs = some s') :
    s'.ctx = (evs.filterMap LedSystemEvent.handled?).foldl LedManager.handleEvent s.ctx := by
  induction evs generalizing s with
  | nil => exact (Option.some.inj h).symm ▸ rfl
  | cons a evs ih =>
    obtain ⟨s₁, h₁, h₂⟩ := Option.bind_eq_some.1 h
    rw [ih h₂]
    cases a with
    | pass => rw [← Option.some.inj h₁, blinkPass_ctx]; rfl
    | handle e =>
      simp only [ledSystemStep] at h₁
      split at h₁
      · cases h₁
      · rw [← Option.some.inj h₁]; rfl

/-! ## What a handler sends -/

namespace LedManager

/-- `updateDerivedLedCounter` sends the counter it derives. -/
theorem updateDerivedLedCounter_sends (ctx : LedManagerContext) :
    (updateDerivedLedCounter ctx).countChange =
      (updateDerivedLedCounter ctx).derivedLedCounter :: ctx.countChange := rfl

/-- Each handler sends nothing and keeps the derived counter, or sends the counter it
derives, once. -/
theorem handleEvent_sends (ctx : LedManagerContext) (e : LedEvent) :
    ((handleEvent ctx e).countChange = ctx.countChange ∧
        (handleEvent ctx e).derivedLedCounter = ctx.derivedLedCounter) ∨
      (handleEvent ctx e).countChange =
        (handleEvent ctx e).derivedLedCounter :: ctx.countChange := by
  rcases e with ⟨key, config⟩ | key | ⟨key, status⟩ | key <;>
    simp only [handleEvent, handleLedBlinkModify, handleLedBlinkDelete, handleDNS,
      handleDNSModify, handleDNSDelete, storeStatus] <;>
    split_ifs <;>
    first | exact .inl ⟨rfl, rfl⟩ | exact .inr (updateDerivedLedCounter_sends _)

end LedManager

/-! ## Every interleaving -/

/-- What the two goroutines keep: the loop's LED invariant; the values sent are the
waiting one and those received, in order; and the goroutine's counter is the last value
it received. -/
structure LedSystem.Inv (s : LedSystem) : Prop where
  led : LedManager.Inv s.ctx
  channel : s.ctx.countChange = s.waiting.toList ++ s.received
  counter : s.counter = s.received.head?.getD 0

namespace LedSystem.Inv

variable {s s' : LedSystem}

theorem init : LedSystem.Inv {} := ⟨LedManager.Inv.init, rfl, rfl⟩

theorem blinkPass (hi : s.Inv) : (GoProvision.blinkPass s).Inv := by
  obtain ⟨hled, hch, hc⟩ := hi
  unfold GoProvision.blinkPass
  cases hw : s.waiting with
  | none => exact ⟨hled, by simpa [hw] using hch, hc⟩
  | some v => exact ⟨hled, by simpa [hw] using hch, rfl⟩

/-- Every action keeps the invariant. -/
theorem step (hi : s.Inv) {a : LedSystemEvent} (h : ledSystemStep s a = some s') : s'.Inv := by
  cases a with
  | pass => exact Option.some.inj h ▸ hi.blinkPass
  | handle e =>
    obtain ⟨hled, hch, hc⟩ := hi
    simp only [ledSystemStep] at h
    cases hw : s.waiting with
    | some _ => simp [hw] at h
    | none =>
      simp only [hw, Option.some.injEq] at h
      subst h
      simp only [hw, Option.toList_none, List.nil_append] at hch
      rcases LedManager.handleEvent_sends s.ctx e with ⟨hsame, -⟩ | hsent
      · exact ⟨hled.handleEvent e, by simp [hsame, hch], hc⟩
      · exact ⟨hled.handleEvent e, by simp [hsent, hch], hc⟩

theorem run (hi : s.Inv) {evs : List LedSystemEvent} (h : ledSystemRun s evs = some s') :
    s'.Inv := by
  induction evs generalizing s with
  | nil => exact Option.some.inj h ▸ hi
  | cons a evs ih =>
    obtain ⟨s₁, h₁, h₂⟩ := Option.bind_eq_some.1 h
    exact ih (hi.step h₁) h₂

/-- With no send waiting, the goroutine's counter is the loop's derived counter. -/
theorem counter_eq (hi : s.Inv) (hw : s.waiting = none) : s.counter = s.ctx.derivedLedCounter := by
  rw [hi.counter, ← show s.ctx.countChange = s.received by simpa [hw] using hi.channel]
  cases hcc : s.ctx.countChange with
  | nil => exact (hi.led.fresh hcc).2.2.symm
  | cons v vs =>
    have := (hi.led.sent (by simp [hcc])).1
    simp_all

end LedSystem.Inv

/-- Along every interleaving of ledmanager's loop and its blink goroutine from their
start, the values the loop sent are those the goroutine received, in order, but for the
one a waiting send holds, and the goroutine's next pass blinks the loop's derived counter:
not at all until the loop has handled an event that `startsLed`, and from then on once
while the stored status has no address that is not link-local, and `max 2 ledCounter`
times otherwise. -/
theorem ledSystem_pass_blinks_derived {evs : List LedSystemEvent} {s : LedSystem}
    (h : ledSystemRun {} evs = some s) :
    s.ctx.countChange = s.waiting.toList ++ s.received ∧
      (blinkPass s).passes.head? = some s.ctx.derivedLedCounter.toNat ∧
      s.ctx.derivedLedCounter =
        if (evs.filterMap LedSystemEvent.handled?).any LedManager.LedEvent.startsLed then
          (if ∀ p ∈ s.ctx.deviceNetworkStatus.Ports, ∀ ai ∈ p.AddrInfoList,
              ai.Addr.IsLinkLocalUnicast = true then 1 else max 2 s.ctx.ledCounter)
        else 0 := by
  have hi := LedSystem.Inv.init.run h
  have hsent := LedManager.run_sent_iff (evs.filterMap LedSystemEvent.handled?) {}
    LedManager.Inv.init
  rw [← ledSystemRun_ctx h] at hsent
  refine ⟨hi.channel, ?_, ?_⟩
  · rw [blinkPass_passes, hi.blinkPass.counter_eq (blinkPass_waiting s), blinkPass_ctx]
    rfl
  · by_cases hs : (evs.filterMap LedSystemEvent.handled?).any LedManager.LedEvent.startsLed
    · rw [if_pos hs]
      simp only [← hi.led.usable.trans (CountLocalAddrAnyNoLinkLocal_eq_zero _)]
      exact (hi.led.sent (hsent.2 (.inr hs))).2
    · have h0 : s.ctx.countChange = [] := by
        by_contra h0
        simpa [hs] using hsent.1 h0
      rw [if_neg hs]
      exact (hi.led.fresh h0).2.2

/-- A new LED counter of 3 without a usable address: the loop waits with 1 on the channel,
and the goroutine's next pass blinks once. -/
theorem ledSystem_pass_blinks_derived_ledconfig :
    ledSystemRun {} [.handle (.ledBlinkModify "ledconfig" ⟨3⟩)] =
        some { ctx := { ledCounter := 3, derivedLedCounter := 1, countChange := [1] },
               waiting := some 1 } ∧
      (blinkPass { ctx := { ledCounter := 3, derivedLedCounter := 1, countChange := [1] },
                   waiting := some 1 }).passes.head? = some 1 :=
  ⟨rfl, (@ledSystem_pass_blinks_derived [.handle (.ledBlinkModify "ledconfig" ⟨3⟩)] _ rfl).2.1⟩

end GoProvision
