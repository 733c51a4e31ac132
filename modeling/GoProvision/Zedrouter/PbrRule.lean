import GoProvision.DeviceNetwork.AddrCache
import GoProvision.Zedrouter.PbrRoute

/-!
# GoProvision — zedrouter's source rules

For every address of a link, zedrouter has the kernel route the address's traffic by
the link's table: `PbrAddrChange` calls `addSourceRule` for an address it adds to its
cache and `delSourceRule` for one it removes. The rule's source is the address alone
(`/32` or `/128`) on a port and the address with its mask on a bridge, and its table
is `FreeTable + ifindex`.

We run the handler beside the kernel's addresses, as `AddrWorld` does, and beside the
kernel's rules. The kernel identifies a rule by its table, family and source; netlink
sends the source in its family's form (`IP.canon` up to that form) and the prefix
length of its mask, which the mask determines for the masks netlink reports.
`RuleDel` removes the first rule with the identity it is given and fails when there
is none; `RuleAdd` adds the rule. The mirror's runs start from a kernel with no source
rule; zedrouter's own start, `PbrInit`, flushes only `FreeTable`'s rules
(`flushRules(0)`), and the last section follows a run from a kernel an earlier zedrouter
left. The link types come from one `IfindexToName` for the whole run.

Main results:

* `AddrWorld.Inv.cacheInTable` — every address the cache holds for a link is assigned
  to it in the kernel, entry for entry (mask included).
* `flushRules_eq` — `flushRules` never fails, and deletes exactly the rules of its
  table.
* `RulesMirror.step` — every address event keeps the source rules in step with the
  cache: one rule for each cached address, and no two with one identity.
* `pbr_rules_mirror_addrs` — over every run of address events a kernel with one prefix
  per address can send, the kernel's source rules are exactly the rules of the
  addresses assigned to each link, each rule once.
* `stale_sourceRule_survives` — a source rule an earlier zedrouter left stays through
  `PbrInit` and through every run whose events are not about its address.
-/

namespace GoProvision

/-! ## Rules -/

/-- `syscall.AF_INET`. -/
def AF_INET : Nat := 2

/-- `syscall.AF_INET6`. -/
def AF_INET6 : Nat := 10

/-- `net.CIDRMask(ones, bits)`: `ones` one bits followed by zeros, `nil` for a length
other than 32 or 128 or for more ones than bits. -/
def CIDRMask (ones bits : Nat) : List UInt8 :=
  if (bits ≠ 8 * IPv4len ∧ bits ≠ 8 * IPv6len) ∨ bits < ones then [] else
  (List.range (bits / 8)).map fun i =>
    if 8 * (i + 1) ≤ ones then 0xff else ~~~((0xff : UInt8) >>> (ones - 8 * i).toUInt8)

example : CIDRMask 32 32 = [255, 255, 255, 255] := by decide
example : CIDRMask 20 32 = [255, 255, 240, 0] := by decide

/-- `netlink.Rule`: the fields `addSourceRule` and `delSourceRule` set. -/
structure NetlinkRule where
  Table : Int
  Family : Nat
  Src : IPNet
  deriving DecidableEq, Repr

/-- The kernel's identity of a rule. -/
def NetlinkRule.key (r : NetlinkRule) : Int × Nat × List UInt8 × List UInt8 :=
  (r.Table, r.Family, r.Src.IP.canon, r.Src.Mask)

/-- `netlink.RuleDel`: the kernel removes the first rule with the identity; `none` is
the error when there is none. -/
def RuleDel (rules : List NetlinkRule) (r : NetlinkRule) : Option (List NetlinkRule) :=
  if rules.any (·.key == r.key) then some (rules.eraseP (·.key == r.key)) else none

/-- `netlink.RuleAdd`. -/
def RuleAdd (rules : List NetlinkRule) (r : NetlinkRule) : List NetlinkRule := rules ++ [r]

/-- The rule `addSourceRule` and `delSourceRule` build: the table of the link, and as
source the address alone for a port and the address with its mask for a bridge. -/
def sourceRule (ifindex : Int) (p : IPNet) (bridge : Bool) : NetlinkRule :=
  if p.IP.To4 ≠ none then
    { Table := FreeTable + ifindex, Family := AF_INET,
      Src := if bridge then p else { IP := p.IP, Mask := CIDRMask 32 32 } }
  else
    { Table := FreeTable + ifindex, Family := AF_INET6,
      Src := if bridge then p else { IP := p.IP, Mask := CIDRMask 128 128 } }

def addSourceRule (rules : List NetlinkRule) (ifindex : Int) (p : IPNet) (bridge : Bool) :
    List NetlinkRule :=
  let r := sourceRule ifindex p bridge
  -- Avoid duplicate rules
  let rules := (RuleDel rules r).getD rules
  RuleAdd rules r

/-- `delSourceRule`; a failed `RuleDel` is only logged. -/
def delSourceRule (rules : List NetlinkRule) (ifindex : Int) (p : IPNet) (bridge : Bool) :
    List NetlinkRule :=
  (RuleDel rules (sourceRule ifindex p bridge)).getD rules

/-! ## The handler -/

/-- What `PbrAddrChange` does besides updating the cache. -/
inductive PbrAction
  | addSourceRule (ifindex : Int) (p : IPNet) (bridge : Bool)
  | delSourceRule (ifindex : Int) (p : IPNet) (bridge : Bool)
  | addrChangeFuncMgmtPort (ifname : String)
  | addrChangeFuncNonMgmtPort (ifname : String)
  deriving DecidableEq, Repr

/-- `PbrAddrChange` (zedrouter): on a change, add or delete the source rule of the
address, then call the management or non-management callback. `IfindexToName` returns
the link's name and type. -/
def PbrAddrChange (IfindexToName : Int → Except String (String × String))
    (deviceNetworkStatus : DeviceNetworkStatus) (m : AddrCache) (change : AddrUpdate) :
    AddrCache × List PbrAction :=
  let (changed, m) := addrChangeCache m change
  if !changed then (m, []) else
  let linkType := match IfindexToName change.LinkIndex with
    | .ok (_, t) => t
    | .error _ => ""
  let rule := if change.NewAddr then
      PbrAction.addSourceRule change.LinkIndex change.LinkAddress (linkType == "bridge")
    else PbrAction.delSourceRule change.LinkIndex change.LinkAddress (linkType == "bridge")
  let notify := match IfindexToName change.LinkIndex with
    | .error _ => []
    | .ok (ifname, _) =>
      if IsMgmtPort deviceNetworkStatus ifname then [PbrAction.addrChangeFuncMgmtPort ifname]
      else [PbrAction.addrChangeFuncNonMgmtPort ifname]
  (m, rule :: notify)

/-- The source rule runs exactly when the cache reports a change. -/
theorem PbrAddrChange_acts_iff (IfindexToName : Int → Except String (String × String))
    (dns : DeviceNetworkStatus) (m : AddrCache) (change : AddrUpdate) :
    (PbrAddrChange IfindexToName dns m change).1 = (addrChangeCache m change).2 ∧
      ((PbrAddrChange IfindexToName dns m change).2 ≠ [] ↔
        (addrChangeCache m change).1 = true) := by
  unfold PbrAddrChange
  generalize addrChangeCache m change = r
  obtain ⟨_ | _, _⟩ := r <;> simp

/-- The rule calls among `PbrAddrChange`'s actions; its callbacks change no rule. -/
def PbrAction.applyRules (rules : List NetlinkRule) : PbrAction → List NetlinkRule
  | .addSourceRule ifindex p bridge => GoProvision.addSourceRule rules ifindex p bridge
  | .delSourceRule ifindex p bridge => GoProvision.delSourceRule rules ifindex p bridge
  | .addrChangeFuncMgmtPort _ | .addrChangeFuncNonMgmtPort _ => rules

/-- The bridge flag `PbrAddrChange` passes: the link's type from `IfindexToName` is
`"bridge"`. -/
def isBridge (IfindexToName : Int → Except String (String × String)) (ifindex : Int) : Bool :=
  (match IfindexToName ifindex with
    | .ok (_, t) => t
    | .error _ => "") == "bridge"

@[simp] theorem sourceRule_Table (i : Int) (p : IPNet) (b : Bool) :
    (sourceRule i p b).Table = FreeTable + i := by
  unfold sourceRule; split <;> rfl

@[simp] theorem sourceRule_Src_IP (i : Int) (p : IPNet) (b : Bool) :
    (sourceRule i p b).Src.IP = p.IP := by
  unfold sourceRule; split <;> split <;> rfl

/-- Two source rules with one identity are rules of one link and one address. -/
theorem sourceRule_key_eq {i j : Int} {a p : IPNet} {b c : Bool}
    (h : (sourceRule i a b).key = (sourceRule j p c).key) : i = j ∧ a.key = p.key := by
  simp only [NetlinkRule.key, Prod.mk.injEq, sourceRule_Table, sourceRule_Src_IP] at h
  exact ⟨by omega, h.2.2.1⟩

/-- Where the identity is unique, deleting by it removes exactly the rule that has it. -/
theorem mem_eraseP_key {rules : List NetlinkRule} (hnd : (rules.map NetlinkRule.key).Nodup)
    {r : NetlinkRule}
    {k : Int × Nat × List UInt8 × List UInt8} :
    r ∈ rules.eraseP (·.key == k) ↔ r ∈ rules ∧ r.key ≠ k := by
  by_cases hk : ∃ x ∈ rules, x.key = k
  · obtain ⟨x₀, hx₀, hk₀⟩ := hk
    obtain ⟨x, l₁, l₂, hl₁, hx, rfl, he⟩ :=
      @List.exists_of_eraseP _ (·.key == k) _ _ hx₀ (by simp [hk₀])
    rw [he]
    simp only [beq_iff_eq] at hx hl₁
    simp only [List.map_append, List.map_cons, List.nodup_append, List.nodup_cons,
      List.mem_map, List.disjoint_cons_right] at hnd
    simp only [List.mem_append, List.mem_cons]
    constructor
    · rintro (h | h)
      · exact ⟨.inl h, fun e => hl₁ r h (by simpa using e)⟩
      · exact ⟨.inr (.inr h), fun e => hnd.2.1.1 ⟨r, h, e.trans hx.symm⟩⟩
    · rintro ⟨h | rfl | h, hne⟩
      exacts [.inl h, absurd hx hne, .inr h]
  · push_neg at hk
    rw [List.eraseP_of_forall_not fun x hx h => hk x hx (by simpa using h)]
    exact ⟨fun h => ⟨h, hk r h⟩, And.left⟩

theorem nodup_eraseP_key {rules : List NetlinkRule} (hnd : (rules.map NetlinkRule.key).Nodup)
    (k : Int × Nat × List UInt8 × List UInt8) :
    ((rules.eraseP (·.key == k)).map NetlinkRule.key).Nodup :=
  ((List.eraseP_sublist _).map _).nodup hnd

/-- A rule that no rule shares an identity with is added once. -/
theorem addSourceRule_fresh {rules : List NetlinkRule} {i : Int} {p : IPNet} {b : Bool}
    (h : ∀ r ∈ rules, r.key ≠ (sourceRule i p b).key) :
    addSourceRule rules i p b = rules ++ [sourceRule i p b] := by
  have : rules.any (·.key == (sourceRule i p b).key) = false :=
    List.any_eq_false.2 fun r hr e => h r hr (by simpa using e)
  simp [addSourceRule, RuleDel, RuleAdd, this]

/-- A rule present is deleted by its identity. -/
theorem delSourceRule_mem {rules : List NetlinkRule} {i : Int} {p : IPNet} {b : Bool}
    (h : sourceRule i p b ∈ rules) :
    delSourceRule rules i p b = rules.eraseP (·.key == (sourceRule i p b).key) := by
  have : rules.any (·.key == (sourceRule i p b).key) = true :=
    List.any_eq_true.2 ⟨_, h, by simp⟩
  simp [delSourceRule, RuleDel, this]

/-- A rule of another identity stays through a `RuleDel`, failed or not. -/
theorem mem_RuleDel_getD {rules : List NetlinkRule} {r x : NetlinkRule} (hx : x ∈ rules)
    (hk : x.key ≠ r.key) : x ∈ (RuleDel rules r).getD rules := by
  unfold RuleDel
  split_ifs
  · exact (@List.mem_eraseP_of_neg _ (·.key == r.key) x rules (by simpa using hk)).2 hx
  · exact hx

/-! ## flushRules -/

/-- The loop of `flushRules` over the rules `RuleList` returned, on the kernel's rules
`cur`; `none` is the `log.Fatalf` of a failed `RuleDel`. -/
def flushRulesLoop (ifindex : Int) :
    List NetlinkRule → List NetlinkRule → Option (List NetlinkRule)
  | [], cur => some cur
  | r :: rules, cur =>
    if ifindex = 0 ∧ r.Table ≠ FreeTable then flushRulesLoop ifindex rules cur
    else if ifindex ≠ 0 ∧ r.Table ≠ FreeTable + ifindex then flushRulesLoop ifindex rules cur
    else (RuleDel cur r).bind (flushRulesLoop ifindex rules)

/-- `flushRules`: it deletes every rule of `FreeTable` when `ifindex` is zero, and of
`FreeTable + ifindex` otherwise. -/
def flushRules (ifindex : Int) (rules : List NetlinkRule) : Option (List NetlinkRule) :=
  flushRulesLoop ifindex rules rules

/-- Passing a listed rule: the loop's two tests skip the rules of the other tables, since
`FreeTable + 0` is `FreeTable`, and delete the others. -/
theorem flushRulesLoop_cons (ifindex : Int) (r : NetlinkRule) (rules cur : List NetlinkRule) :
    flushRulesLoop ifindex (r :: rules) cur =
      if r.Table = FreeTable + ifindex then (RuleDel cur r).bind (flushRulesLoop ifindex rules)
      else flushRulesLoop ifindex rules cur := by
  by_cases h0 : ifindex = 0
  · subst h0; simp [flushRulesLoop, ite_not]
  · simp [flushRulesLoop, h0, ite_not]

/-- The loop deletes, from the rules it kept followed by the rules still listed, exactly the
listed rules of the table: the first rule with such a rule's identity is the rule itself,
since the kept ones are of other tables. -/
theorem flushRulesLoop_eq (ifindex : Int) (rules : List NetlinkRule) :
    ∀ kept : List NetlinkRule, (∀ x ∈ kept, x.Table ≠ FreeTable + ifindex) →
      flushRulesLoop ifindex rules (kept ++ rules) =
        some (kept ++ rules.filter (·.Table ≠ FreeTable + ifindex)) := by
  induction rules with
  | nil => intro kept _; simp [flushRulesLoop]
  | cons r rules ih =>
    intro kept hk
    rw [flushRulesLoop_cons]
    by_cases hr : r.Table = FreeTable + ifindex
    · have hne : ∀ x ∈ kept, ¬(x.key == r.key) = true := fun x hx h =>
        hk x hx (by simp only [NetlinkRule.key, beq_iff_eq, Prod.mk.injEq] at h; rw [h.1, hr])
      have hdel : RuleDel (kept ++ r :: rules) r = some (kept ++ rules) := by
        simp [RuleDel, List.eraseP_append_right _ hne]
      simp [hr, hdel, ih kept hk]
    · have := ih (kept ++ [r]) (by simpa [or_imp, forall_and] using ⟨hk, hr⟩)
      simp only [List.append_assoc, List.singleton_append] at this
      simp [hr, this, List.filter_cons]

/-- `flushRules` never fails, and leaves the rules of the other tables. -/
theorem flushRules_eq (ifindex : Int) (rules : List NetlinkRule) :
    flushRules ifindex rules = some (rules.filter (·.Table ≠ FreeTable + ifindex)) :=
  flushRulesLoop_eq ifindex rules [] (by simp)

/-! ## The cache and the kernel's entries -/

/-- Every address the cache holds for a link is an entry of the kernel's table. -/
def AddrWorld.CacheInTable (w : AddrWorld) : Prop :=
  ∀ i, ∀ a ∈ cacheAt w.cache i, (i, a) ∈ w.table

/-- Where keys are unique, removing the first entry that matches removes the entries
with its key. -/
theorem mem_eraseP_sameEntry {l : List IPNet} (hl : ∀ a ∈ l, a.WellFormed)
    (hnd : (l.map IPNet.key).Nodup) {x a : IPNet} (hx : x.WellFormed) :
    a ∈ l.eraseP (sameEntry · x) ↔ a ∈ l ∧ a.key ≠ x.key := by
  constructor
  · intro ha
    have hk := List.mem_map_of_mem IPNet.key ha
    rw [map_key_eraseP hx hl, hnd.mem_erase_iff] at hk
    exact ⟨List.mem_of_mem_eraseP ha, hk.1⟩
  · rintro ⟨ha, hne⟩
    exact (@List.mem_eraseP_of_neg _ (sameEntry · x) a l
      fun h => hne ((sameEntry_iff_key (hl a ha) hx).1 h)).2 ha

theorem AddrTable.mem_apply_of_new {t : AddrTable} {u : AddrUpdate} (hn : u.NewAddr = true)
    {e : Int × IPNet} (he : e ∈ t ∨ e = (u.LinkIndex, u.LinkAddress)) : e ∈ t.apply u := by
  unfold AddrTable.apply
  rw [if_pos hn]
  split_ifs with hm
  · exact he.elim id (· ▸ hm)
  · exact List.mem_append.2 (he.imp id List.mem_singleton.2)

theorem AddrTable.mem_apply_of_del {t : AddrTable} {u : AddrUpdate} (hn : u.NewAddr = false)
    {e : Int × IPNet} (he : e ∈ t) (hne : e ≠ (u.LinkIndex, u.LinkAddress)) :
    e ∈ t.apply u := by
  unfold AddrTable.apply
  rw [if_neg (by simp [hn])]
  exact (List.mem_erase_of_ne hne).2 he

theorem AddrWorld.Inv.cacheInTable_step {w : AddrWorld} {u : AddrUpdate} (hw : w.Inv)
    (hc : w.CacheInTable) (hu : w.table.CanEmit u) : (w.step u).2.CacheInTable := by
  intro j a ha
  show (j, a) ∈ w.table.apply u
  simp only [AddrWorld.step, cacheAt_addrChangeCache] at ha
  by_cases hj : j = u.LinkIndex <;> cases hn : u.NewAddr <;>
    simp only [hj, hn, if_true, if_false, Bool.false_eq_true] at ha
  · -- the delete's own link: the entry left has another address
    subst hj
    have ha' := (mem_eraseP_sameEntry (hw.cache_wf _) (hw.cache_nodup _) hu.1).1 ha
    exact AddrTable.mem_apply_of_del hn (hc _ a ha'.1) fun h => ha'.2 (by rw [(Prod.mk.inj h).2])
  · subst hj
    split_ifs at ha
    · exact AddrTable.mem_apply_of_new hn (.inl (hc _ a ha))
    · rcases List.mem_append.1 ha with ha | ha
      · exact AddrTable.mem_apply_of_new hn (.inl (hc _ a ha))
      · exact AddrTable.mem_apply_of_new hn (.inr (by rw [List.mem_singleton.1 ha]))
  · exact AddrTable.mem_apply_of_del hn (hc j a ha) fun h => hj (Prod.mk.inj h).1
  · exact AddrTable.mem_apply_of_new hn (.inl (hc j a ha))

/-! ## Rules beside the cache -/

/-- The kernel's addresses and zedrouter's cache, with the kernel's source rules. -/
structure RuleWorld where
  addrs : AddrWorld
  rules : List NetlinkRule

/-- zedrouter's start on a kernel with no source rule. -/
def RuleWorld.init : RuleWorld := ⟨AddrWorld.init, []⟩

section Rules

variable (IfindexToName : Int → Except String (String × String))

/-- An address event: the kernel's table changes, and `PbrAddrChange` updates the cache
and makes its rule calls. -/
def RuleWorld.step (dns : DeviceNetworkStatus) (w : RuleWorld) (u : AddrUpdate) : RuleWorld :=
  let (cache, actions) := PbrAddrChange IfindexToName dns w.addrs.cache u
  ⟨⟨w.addrs.table.apply u, cache⟩, actions.foldl PbrAction.applyRules w.rules⟩

/-- The worlds reached by events the kernel can send, every table on the way satisfying
`ok`; the status the callbacks read may change between events. -/
inductive RuleReachable (ok : AddrTable → Prop) : RuleWorld → Prop
  | init : RuleReachable ok RuleWorld.init
  | step {w : RuleWorld} {u : AddrUpdate} (dns : DeviceNetworkStatus) : RuleReachable ok w →
      w.addrs.table.CanEmit u → ok (w.addrs.table.apply u) →
      RuleReachable ok (w.step IfindexToName dns u)

/-- The source rules are the rules of the cached addresses, one for each, and no two
share an identity. -/
structure RulesMirror (cache : AddrCache) (rules : List NetlinkRule) : Prop where
  mem : ∀ r, r ∈ rules ↔
    ∃ i, ∃ a ∈ cacheAt cache i, r = sourceRule i a (isBridge IfindexToName i)
  nodup : (rules.map NetlinkRule.key).Nodup

variable {IfindexToName}

theorem RuleWorld.step_addrs (dns : DeviceNetworkStatus) (w : RuleWorld) (u : AddrUpdate) :
    (w.step IfindexToName dns u).addrs = (w.addrs.step u).2 := by
  simp only [RuleWorld.step, AddrWorld.step, ← (PbrAddrChange_acts_iff IfindexToName dns _ u).1]

/-- The rule call of an event: `addSourceRule` for an address the cache adds,
`delSourceRule` for one it removes. -/
theorem RuleWorld.step_rules (dns : DeviceNetworkStatus) (w : RuleWorld) (u : AddrUpdate) :
    (w.step IfindexToName dns u).rules =
      if (addrChangeCache w.addrs.cache u).1 then
        if u.NewAddr then
          addSourceRule w.rules u.LinkIndex u.LinkAddress (isBridge IfindexToName u.LinkIndex)
        else delSourceRule w.rules u.LinkIndex u.LinkAddress (isBridge IfindexToName u.LinkIndex)
      else w.rules := by
  unfold RuleWorld.step PbrAddrChange isBridge
  generalize addrChangeCache w.addrs.cache u = r
  obtain ⟨_ | _, _⟩ := r
  · rfl
  · simp only [Bool.not_true, Bool.false_eq_true, if_false, if_true, List.foldl_cons]
    cases u.NewAddr <;> cases IfindexToName u.LinkIndex <;>
      simp [PbrAction.applyRules, apply_ite]

end Rules

/-! ## What an address event does to the rules -/

section Mirror

variable {IfindexToName : Int → Except String (String × String)}

/-- `cacheAt_addrChangeCache`, with the event's own list at its ifindex. -/
theorem cacheAt_addrChangeCache_at (m : AddrCache) (u : AddrUpdate) (j : Int) :
    cacheAt (addrChangeCache m u).2 j =
      if j = u.LinkIndex then
        if u.NewAddr then
          if (cacheAt m u.LinkIndex).any (sameEntry · u.LinkAddress) then cacheAt m u.LinkIndex
          else cacheAt m u.LinkIndex ++ [u.LinkAddress]
        else (cacheAt m u.LinkIndex).eraseP (sameEntry · u.LinkAddress)
      else cacheAt m j := by
  rw [cacheAt_addrChangeCache]
  by_cases hj : j = u.LinkIndex
  · subst hj; rfl
  · simp [hj]

/-- An address the cache has no match for has no rule yet. -/
theorem RulesMirror.fresh {cache : AddrCache} {rules : List NetlinkRule}
    (hm : RulesMirror IfindexToName cache rules) {i : Int} {p : IPNet}
    (hwf : ∀ a ∈ cacheAt cache i, a.WellFormed) (hp : p.WellFormed)
    (hf : (cacheAt cache i).any (sameEntry · p) = false) (b : Bool) :
    ∀ r ∈ rules, r.key ≠ (sourceRule i p b).key := by
  intro r hr hk
  obtain ⟨j, a, ha, rfl⟩ := (hm.mem r).1 hr
  obtain ⟨rfl, hkey⟩ := sourceRule_key_eq hk
  rw [List.any_eq_false] at hf
  exact hf a ha ((sameEntry_iff_key (hwf a ha) hp).2 hkey)

/-- The mirror depends on the cache through its lists only. -/
theorem RulesMirror.of_cacheAt_eq {cache cache' : AddrCache} {rules : List NetlinkRule}
    (hm : RulesMirror IfindexToName cache rules) (h : ∀ j, cacheAt cache' j = cacheAt cache j) :
    RulesMirror IfindexToName cache' rules :=
  ⟨fun r => by simp only [h]; exact hm.mem r, hm.nodup⟩

/-- An added address gets its rule. -/
theorem RulesMirror.add {cache cache' : AddrCache} {rules : List NetlinkRule} {i : Int} {p : IPNet}
    (hm : RulesMirror IfindexToName cache rules)
    (hfresh : ∀ r ∈ rules, r.key ≠ (sourceRule i p (isBridge IfindexToName i)).key)
    (hc : ∀ j, cacheAt cache' j = if j = i then cacheAt cache i ++ [p] else cacheAt cache j) :
    RulesMirror IfindexToName cache' (rules ++ [sourceRule i p (isBridge IfindexToName i)]) := by
  refine ⟨fun r => ?_, ?_⟩
  · simp only [hc, List.mem_append, List.mem_singleton, hm.mem r]
    constructor
    · rintro (⟨j, a, ha, rfl⟩ | rfl)
      · refine ⟨j, a, ?_, rfl⟩
        split_ifs with hj
        · subst hj; exact List.mem_append_left _ ha
        · exact ha
      · exact ⟨i, p, by simp, rfl⟩
    · rintro ⟨j, a, ha, rfl⟩
      split_ifs at ha with hj
      · subst hj
        rcases List.mem_append.1 ha with ha | ha
        · exact .inl ⟨j, a, ha, rfl⟩
        · exact .inr (by rw [List.mem_singleton.1 ha])
      · exact .inl ⟨j, a, ha, rfl⟩
  · rw [List.map_append, List.nodup_append]
    exact ⟨hm.nodup, List.nodup_singleton _, List.disjoint_singleton.2 fun h => by
      obtain ⟨r, hr, hk⟩ := List.mem_map.1 h
      exact hfresh r hr hk⟩

/-- A removed address loses its rule, where the rule deleted is the cached address's. -/
theorem RulesMirror.del {cache cache' : AddrCache} {rules : List NetlinkRule} {i : Int} {p : IPNet}
    (hm : RulesMirror IfindexToName cache rules) (hwf : ∀ a ∈ cacheAt cache i, a.WellFormed)
    (hnd : (keysAt cache i).Nodup) (hp : p.WellFormed) (hpc : p ∈ cacheAt cache i)
    (hc : ∀ j, cacheAt cache' j =
      if j = i then (cacheAt cache i).eraseP (sameEntry · p) else cacheAt cache j) :
    RulesMirror IfindexToName cache'
      (rules.eraseP (·.key == (sourceRule i p (isBridge IfindexToName i)).key)) := by
  refine ⟨fun r => ?_, nodup_eraseP_key hm.nodup _⟩
  rw [mem_eraseP_key hm.nodup, hm.mem r]
  simp only [hc]
  constructor
  · rintro ⟨⟨j, a, ha, rfl⟩, hk⟩
    refine ⟨j, a, ?_, rfl⟩
    split_ifs with hj
    · subst hj
      refine (mem_eraseP_sameEntry hwf hnd hp).2 ⟨ha, fun hkey => hk ?_⟩
      rw [List.inj_on_of_nodup_map hnd ha hpc hkey]
    · exact ha
  · rintro ⟨j, a, ha, rfl⟩
    split_ifs at ha with hj
    · subst hj
      obtain ⟨ha, hne⟩ := (mem_eraseP_sameEntry hwf hnd hp).1 ha
      exact ⟨⟨j, a, ha, rfl⟩, fun hk => hne (sourceRule_key_eq hk).2⟩
    · exact ⟨⟨j, a, ha, rfl⟩, fun hk => hj (sourceRule_key_eq hk).1⟩

/-- Every address event keeps the rules in step with the cache, while the table has one
prefix per address: a deleted address's cached entry is the event's own. -/
theorem RulesMirror.step {w : RuleWorld} {u : AddrUpdate} (dns : DeviceNetworkStatus)
    (hw : w.addrs.Inv) (hc : w.addrs.CacheInTable) (hs : w.addrs.table.SinglePrefix)
    (hu : w.addrs.table.CanEmit u) (hm : RulesMirror IfindexToName w.addrs.cache w.rules) :
    RulesMirror IfindexToName (w.step IfindexToName dns u).addrs.cache
      (w.step IfindexToName dns u).rules := by
  have hcache := cacheAt_addrChangeCache_at w.addrs.cache u
  rw [RuleWorld.step_addrs, RuleWorld.step_rules, addrChangeCache_flag]
  simp only [AddrWorld.step]
  cases hn : u.NewAddr <;>
    cases hf : (cacheAt w.addrs.cache u.LinkIndex).any (sameEntry · u.LinkAddress) <;>
    simp only [hn, hf, if_true, if_false, Bool.false_eq_true, Bool.not_true, Bool.not_false]
      at hcache ⊢
  · -- a delete the cache has no match for
    refine hm.of_cacheAt_eq fun j => ?_
    rw [hcache]
    split_ifs with hj
    · rw [hj]
      exact List.eraseP_of_forall_not fun a ha h => by
        simpa using List.any_eq_false.1 hf a ha h
    · rfl
  · -- a delete of a cached address: under one prefix per address it is the event's
    obtain ⟨a, ha, hsame⟩ := List.any_eq_true.1 hf
    have hEq : a.IP.Equal u.LinkAddress.IP = true := by
      simp only [sameEntry, Bool.and_eq_true] at hsame; exact hsame.1.1
    have hpa := (Prod.mk.inj (hs _ (hc _ a ha) _ (hu.2 hn) rfl hEq)).2
    subst hpa
    rw [delSourceRule_mem ((hm.mem _).2 ⟨_, _, ha, rfl⟩)]
    exact hm.del (hw.cache_wf _) (hw.cache_nodup _) hu.1 ha hcache
  · -- an add of a new address
    rw [addSourceRule_fresh (hm.fresh (hw.cache_wf _) hu.1 hf _)]
    exact hm.add (hm.fresh (hw.cache_wf _) hu.1 hf _) hcache
  · -- an add the cache already holds
    exact hm.of_cacheAt_eq fun j => by rw [hcache]; split_ifs with hj <;> simp [hj]

end Mirror

/-! ## Every run -/

section Run

variable {IfindexToName : Int → Except String (String × String)}

theorem RuleReachable.addrs {ok : AddrTable → Prop} {w : RuleWorld}
    (h : RuleReachable IfindexToName ok w) : AddrReachable ok w.addrs := by
  induction h with
  | init => exact .init
  | step dns _ hu hok ih => rw [RuleWorld.step_addrs]; exact .step ih hu hok

/-- Over every run with one prefix per address, the cache holds kernel entries and the
rules mirror the cache. -/
theorem RuleReachable.mirror {w : RuleWorld}
    (h : RuleReachable IfindexToName AddrTable.SinglePrefix w) :
    w.addrs.CacheInTable ∧ RulesMirror IfindexToName w.addrs.cache w.rules := by
  induction h with
  | init => exact ⟨fun _ _ ha => (nomatch ha), fun _ => by simp [RuleWorld.init, AddrWorld.init],
      List.nodup_nil⟩
  | step dns hr hu _ ih =>
    have hw := hr.addrs.inv
    refine ⟨?_, ih.2.step dns hw ih.1 hr.addrs.complete.1 hu⟩
    rw [RuleWorld.step_addrs]
    exact hw.cacheInTable_step ih.1 hu

end Run

/-- Over every run of address events a kernel with one prefix per address can send, from
a kernel with no source rule, the source rules are exactly the rules of the addresses
assigned to each link, with its type from `IfindexToName`, and no two share an
identity. -/
theorem pbr_rules_mirror_addrs (IfindexToName : Int → Except String (String × String))
    (w : RuleWorld) (h : RuleReachable IfindexToName AddrTable.SinglePrefix w) :
    (∀ r, r ∈ w.rules ↔
        ∃ e ∈ w.addrs.table, r = sourceRule e.1 e.2 (isBridge IfindexToName e.1)) ∧
      (w.rules.map NetlinkRule.key).Nodup := by
  obtain ⟨hc, hm⟩ := h.mirror
  obtain ⟨hs, hcomp⟩ := h.addrs.complete
  have hw := h.addrs.inv
  refine ⟨fun r => ?_, hm.nodup⟩
  rw [hm.mem]
  constructor
  · rintro ⟨i, a, ha, rfl⟩
    exact ⟨(i, a), hc i a ha, rfl⟩
  · -- a kernel entry's key is cached, by an entry of the kernel, which is the entry itself
    rintro ⟨⟨i, e⟩, he, rfl⟩
    obtain ⟨a, ha, hk⟩ := List.mem_map.1 (hcomp i _ ⟨_, he, rfl, rfl⟩)
    have hae := hs.key_eq hw.table_wf (hc i a ha) he rfl hk
    exact ⟨i, a, ha, by rw [(Prod.mk.inj hae).2]⟩

/-- `eth0` (ifindex 2) is a port and `bn1` (ifindex 3) a bridge. -/
def linkTypesEth0Bn1 (ifindex : Int) : Except String (String × String) :=
  if ifindex = 3 then .ok ("bn1", "bridge") else .ok ("eth0", "device")

theorem pbr_rules_mirror_addrs_eth0_bn1 :
    let w := (RuleWorld.init.step linkTypesEth0Bn1 {}
      ⟨{ IP := ⟨[10, 0, 0, 5]⟩, Mask := [255, 255, 255, 0] }, 2, true⟩).step
      linkTypesEth0Bn1 {}
      ⟨{ IP := ⟨[10, 1, 0, 1]⟩, Mask := [255, 255, 255, 0] }, 3, true⟩
    RuleReachable linkTypesEth0Bn1 AddrTable.SinglePrefix w ∧
      ((∀ r, r ∈ w.rules ↔
          ∃ e ∈ w.addrs.table, r = sourceRule e.1 e.2 (isBridge linkTypesEth0Bn1 e.1)) ∧
        (w.rules.map NetlinkRule.key).Nodup) :=
  have h : RuleReachable linkTypesEth0Bn1 AddrTable.SinglePrefix _ :=
    .step {} (.step {} .init (by decide) (by unfold AddrTable.SinglePrefix; decide)) (by decide)
      (by unfold AddrTable.SinglePrefix; decide)
  ⟨h, pbr_rules_mirror_addrs linkTypesEth0Bn1 _ h⟩

/-! ## zedrouter's start on an earlier kernel -/

section Boot

variable (IfindexToName : Int → Except String (String × String))

/-- zedrouter's start on a kernel with the rules `rules`: `PbrInit` empties its caches and
calls `flushRules(0)`. -/
def RuleWorld.boot (rules : List NetlinkRule) : Option RuleWorld :=
  (flushRules 0 rules).map (⟨AddrWorld.init, ·⟩)

/-- zedrouter's handling of a sequence of address events, each with the status its
callbacks read. -/
def RuleWorld.run (w : RuleWorld) (evs : List (DeviceNetworkStatus × AddrUpdate)) :
    RuleWorld :=
  evs.foldl (fun w e => w.step IfindexToName e.1 e.2) w

variable {IfindexToName}

/-- An address event touches only the rules with its own address's identity. -/
theorem RuleWorld.mem_step_rules {dns : DeviceNetworkStatus} {w : RuleWorld} {u : AddrUpdate}
    {r : NetlinkRule} (hr : r ∈ w.rules)
    (hk : r.key ≠ (sourceRule u.LinkIndex u.LinkAddress (isBridge IfindexToName u.LinkIndex)).key) :
    r ∈ (w.step IfindexToName dns u).rules := by
  rw [RuleWorld.step_rules]
  split_ifs
  · exact List.mem_append_left _ (mem_RuleDel_getD hr hk)
  · exact mem_RuleDel_getD hr hk
  · exact hr

theorem RuleWorld.mem_run_rules {evs : List (DeviceNetworkStatus × AddrUpdate)} {w : RuleWorld}
    {r : NetlinkRule} (hr : r ∈ w.rules)
    (hk : ∀ e ∈ evs,
      r.key ≠ (sourceRule e.2.LinkIndex e.2.LinkAddress (isBridge IfindexToName e.2.LinkIndex)).key) :
    r ∈ (w.run IfindexToName evs).rules := by
  induction evs generalizing w with
  | nil => exact hr
  | cons e evs ih =>
    exact ih (RuleWorld.mem_step_rules hr (hk e (List.mem_cons_self _ _)))
      fun e' he' => hk e' (List.mem_cons_of_mem _ he')

variable (IfindexToName)

/-- A source rule that an earlier zedrouter left for a link stays through `PbrInit`, which
flushes only `FreeTable`, and through every run of address events none of which is about
that link and address: zedrouter deletes only the rules of addresses it has cached. -/
theorem stale_sourceRule_survives (rules : List NetlinkRule) {i : Int} (hi : i ≠ 0)
    {p : IPNet} {b : Bool} (hr : sourceRule i p b ∈ rules)
    (evs : List (DeviceNetworkStatus × AddrUpdate))
    (hevs : ∀ e ∈ evs, e.2.LinkIndex ≠ i ∨ e.2.LinkAddress.key ≠ p.key) :
    ∃ w, RuleWorld.boot rules = some w ∧ sourceRule i p b ∈ (w.run IfindexToName evs).rules := by
  refine ⟨⟨AddrWorld.init, rules.filter (·.Table ≠ FreeTable + 0)⟩,
    by simp only [RuleWorld.boot, flushRules_eq, Option.map_some'], RuleWorld.mem_run_rules
      (List.mem_filter.2 ⟨hr, by simp; omega⟩) fun e he hk => ?_⟩
  obtain ⟨h₁, h₂⟩ := sourceRule_key_eq hk
  exact (hevs e he).elim (· h₁.symm) (· h₂.symm)

end Boot

/-- A rule for `eth0`'s address that an earlier zedrouter left survives the start and a new
address on `bn1`. -/
theorem stale_sourceRule_survives_eth0 :
    let p : IPNet := { IP := ⟨[10, 0, 0, 5]⟩, Mask := [255, 255, 255, 0] }
    let evs : List (DeviceNetworkStatus × AddrUpdate) :=
      [({}, ⟨{ IP := ⟨[10, 1, 0, 1]⟩, Mask := [255, 255, 255, 0] }, 3, true⟩)]
    (2 : Int) ≠ 0 ∧ sourceRule 2 p false ∈ [sourceRule 2 p false] ∧
      (∀ e ∈ evs, e.2.LinkIndex ≠ 2 ∨ e.2.LinkAddress.key ≠ p.key) ∧
      ∃ w, RuleWorld.boot [sourceRule 2 p false] = some w ∧
        sourceRule 2 p false ∈ (w.run linkTypesEth0Bn1 evs).rules :=
  ⟨by decide, List.mem_singleton_self _, by decide,
    stale_sourceRule_survives linkTypesEth0Bn1 _ (by decide) (List.mem_singleton_self _) _
      (by decide)⟩

end GoProvision
