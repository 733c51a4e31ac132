import GoProvision.Types
import Mathlib.Data.List.Nodup

/-!
# GoProvision — the ifindex → addresses cache

`devicenetwork` (for nim's `AddrChange`) and `zedrouter` (for `PbrAddrChange`) keep the
same cache, `ifindexToAddrs`, fed by netlink address events: `IfindexToAddrsAdd` appends
an address unless an entry matches it, `IfindexToAddrsDel` removes the first entry that
matches, and the flag they return decides whether the handler above runs. An entry
matches when "containment in both directions" holds, which for well-formed masks is
`IP.Equal` (`sameEntry_eq_Equal`): the cache is keyed by address, not by address and
prefix.

We run the cache beside the kernel table it mirrors. The table holds the assigned
`(ifindex, address/mask)` entries as the events report them: a `NewAddr` event adds an
entry or re-reports one (the `ListExisting` dump does), a delete removes an assigned
entry.

Main results:

* `AddrWorld.Inv.step` — over every event sequence, the cache holds each address at
  most once per ifindex and only addresses the table assigns to that ifindex.
* `AddrWorld.complete_step`, `AddrWorld.changed_iff` — while no ifindex has one address
  assigned under two prefix lengths, the cache holds exactly the assigned addresses and
  each flag is true exactly when the ifindex's set of addresses changed.
* Linux does allow one address under two prefix lengths; deleting either entry then
  drops the address from the cache while the other entry is still assigned.
-/

namespace GoProvision

/-- `netlink.AddrUpdate`: the fields the handlers read. -/
structure AddrUpdate where
  LinkAddress : IPNet
  LinkIndex : Int
  NewAddr : Bool
  deriving DecidableEq, Repr

/-- `ifindexToAddrs`: `none` for an ifindex the map has no entry for. -/
abbrev AddrCache := Int → Option (List IPNet)

/-- `IfindexToAddrsInit`. -/
def IfindexToAddrsInit : AddrCache := fun _ => none

/-- `IfindexToAddrsAdd`: append `addr` unless an entry matches it; true if added. -/
def IfindexToAddrsAdd (m : AddrCache) (index : Int) (addr : IPNet) : Bool × AddrCache :=
  match m index with
  | none => (true, Function.update m index (some [addr]))
  | some addrs =>
    if addrs.any (sameEntry · addr) then (false, m)
    else (true, Function.update m index (some (addrs ++ [addr])))

/-- `IfindexToAddrsDel`: remove the first entry that matches `addr`; true if deleted. -/
def IfindexToAddrsDel (m : AddrCache) (index : Int) (addr : IPNet) : Bool × AddrCache :=
  match m index with
  | none => (false, m)
  | some addrs =>
    if addrs.any (sameEntry · addr) then
      (true, Function.update m index (some (addrs.eraseP (sameEntry · addr))))
    else (false, m)

/-- `IfindexToAddrs`. -/
def IfindexToAddrs (m : AddrCache) (index : Int) : Except String (List IPNet) :=
  match m index with
  | none => .error ("Unknown ifindex " ++ toString index)
  | some addrs => .ok addrs

/-- The dispatch `AddrChange` and `PbrAddrChange` open with; the flag is `changed`. -/
def addrChangeCache (m : AddrCache) (change : AddrUpdate) : Bool × AddrCache :=
  if change.NewAddr then IfindexToAddrsAdd m change.LinkIndex change.LinkAddress
  else IfindexToAddrsDel m change.LinkIndex change.LinkAddress

/-! ## The cache at one ifindex -/

/-- The addresses the cache holds for `i`. -/
def cacheAt (m : AddrCache) (i : Int) : List IPNet := (m i).getD []

@[simp] theorem cacheAt_init (i : Int) : cacheAt IfindexToAddrsInit i = [] := rfl

@[simp] theorem cacheAt_update (m : AddrCache) (i j : Int) (l : List IPNet) :
    cacheAt (Function.update m i (some l)) j = if j = i then l else cacheAt m j := by
  by_cases h : j = i <;> simp [cacheAt, Function.update, h]

theorem IfindexToAddrsAdd_eq (m : AddrCache) (i : Int) (addr : IPNet) :
    IfindexToAddrsAdd m i addr =
      if (cacheAt m i).any (sameEntry · addr) then (false, m)
      else (true, Function.update m i (some (cacheAt m i ++ [addr]))) := by
  unfold IfindexToAddrsAdd cacheAt
  cases m i <;> simp

theorem IfindexToAddrsDel_eq (m : AddrCache) (i : Int) (addr : IPNet) :
    IfindexToAddrsDel m i addr =
      if (cacheAt m i).any (sameEntry · addr) then
        (true, Function.update m i (some ((cacheAt m i).eraseP (sameEntry · addr))))
      else (false, m) := by
  unfold IfindexToAddrsDel cacheAt
  cases m i <;> simp

/-! ## Keys

For well-formed entries the match is equality of the sixteen-byte forms, so the
invariants are stated on those keys. -/

/-- The key an entry is matched by. -/
def IPNet.key (a : IPNet) : List UInt8 := a.IP.canon

/-- The keys the cache holds for `i`. -/
def keysAt (m : AddrCache) (i : Int) : List (List UInt8) := (cacheAt m i).map IPNet.key

theorem sameEntry_iff_key {a b : IPNet} (ha : a.WellFormed) (hb : b.WellFormed) :
    sameEntry a b = true ↔ a.key = b.key := by
  rw [sameEntry_eq_Equal ha hb, IP.Equal_iff ha.valid hb.valid, IPNet.key, IPNet.key]

theorem any_sameEntry_iff {l : List IPNet} {x : IPNet} (hl : ∀ a ∈ l, a.WellFormed)
    (hx : x.WellFormed) : l.any (sameEntry · x) = true ↔ x.key ∈ l.map IPNet.key := by
  simp only [List.any_eq_true, List.mem_map]
  exact ⟨fun ⟨a, ha, h⟩ => ⟨a, ha, ((sameEntry_iff_key (hl a ha) hx).1 h)⟩,
    fun ⟨a, ha, h⟩ => ⟨a, ha, (sameEntry_iff_key (hl a ha) hx).2 h⟩⟩

/-- Removing the first matching entry removes its key. -/
theorem map_key_eraseP {x : IPNet} (hx : x.WellFormed) :
    ∀ {l : List IPNet}, (∀ a ∈ l, a.WellFormed) →
      (l.eraseP (sameEntry · x)).map IPNet.key = (l.map IPNet.key).erase x.key
  | [], _ => rfl
  | a :: l, hl => by
    have ha := sameEntry_iff_key (hl a (List.mem_cons_self a l)) hx
    by_cases h : a.key = x.key
    · simp [List.eraseP_cons, List.erase_cons, ha.2 h, h]
    · have hf : sameEntry a x = false := by simpa [← Bool.not_eq_true, ha] using h
      simp [List.eraseP_cons, List.erase_cons, hf, h,
        map_key_eraseP hx fun b hb => hl b (List.mem_cons_of_mem a hb)]

/-! ## The kernel table -/

/-- The assigned `(ifindex, address/mask)` entries, as the events report them. -/
abbrev AddrTable := List (Int × IPNet)

/-- The table after an event: a new entry is added (a re-reported one is already
there), a deleted one removed. -/
def AddrTable.apply (t : AddrTable) (u : AddrUpdate) : AddrTable :=
  if u.NewAddr then
    if (u.LinkIndex, u.LinkAddress) ∈ t then t else t ++ [(u.LinkIndex, u.LinkAddress)]
  else t.erase (u.LinkIndex, u.LinkAddress)

/-- An event the kernel can send for table `t`: its mask is well-formed for the family,
and a delete names an assigned entry. -/
def AddrTable.CanEmit (t : AddrTable) (u : AddrUpdate) : Prop :=
  u.LinkAddress.WellFormed ∧ (u.NewAddr = false → (u.LinkIndex, u.LinkAddress) ∈ t)

instance (n : IPNet) : Decidable n.WellFormed := inferInstanceAs (Decidable (_ ∨ _))

instance (t : AddrTable) (u : AddrUpdate) : Decidable (t.CanEmit u) :=
  inferInstanceAs (Decidable (_ ∧ _))

/-- `i` is assigned an address equal to `ip`. -/
def AddrTable.Assigned (t : AddrTable) (i : Int) (ip : IP) : Prop :=
  ∃ e ∈ t, e.1 = i ∧ e.2.IP.Equal ip = true

/-- The table assigns to `i` an entry with key `k`. -/
def AddrTable.Has (t : AddrTable) (i : Int) (k : List UInt8) : Prop :=
  ∃ e ∈ t, e.1 = i ∧ e.2.key = k

/-- No ifindex has one address assigned under two entries (two prefix lengths). -/
def AddrTable.SinglePrefix (t : AddrTable) : Prop :=
  ∀ e ∈ t, ∀ e' ∈ t, e.1 = e'.1 → e.2.IP.Equal e'.2.IP = true → e = e'

/-- The set of addresses assigned to `i` differs between two tables. -/
def IPSetChanged (t t' : AddrTable) (i : Int) : Prop :=
  ¬ ∀ ip, t.Assigned i ip ↔ t'.Assigned i ip

theorem AddrTable.Has_append {t : AddrTable} {i j : Int} {x : IPNet} {k : List UInt8} :
    (t ++ [(i, x)]).Has j k ↔ t.Has j k ∨ (i = j ∧ x.key = k) := by
  simp [AddrTable.Has, or_and_right, exists_or]

theorem AddrTable.Has_erase {t : AddrTable} (hnd : t.Nodup) {e₀ : Int × IPNet} {j : Int}
    {k : List UInt8} : AddrTable.Has (t.erase e₀) j k ↔ ∃ e ∈ t, e ≠ e₀ ∧ e.1 = j ∧ e.2.key = k := by
  simp only [AddrTable.Has, hnd.mem_erase_iff, and_assoc]
  exact exists_congr fun e => ⟨fun ⟨h1, h2, h3⟩ => ⟨h2, h1, h3⟩, fun ⟨h1, h2, h3⟩ => ⟨h2, h1, h3⟩⟩

theorem AddrTable.Assigned_iff {t : AddrTable} (hwf : ∀ e ∈ t, e.2.WellFormed) {i : Int}
    {ip : IP} : t.Assigned i ip ↔ ip.Valid ∧ t.Has i ip.canon := by
  constructor
  · rintro ⟨e, he, rfl, h⟩
    have hv := IP.Equal_valid (hwf e he).valid h
    exact ⟨hv, e, he, rfl, (IP.Equal_iff (hwf e he).valid hv).1 h⟩
  · rintro ⟨hv, e, he, rfl, h⟩
    exact ⟨e, he, rfl, (IP.Equal_iff (hwf e he).valid hv).2 h⟩

theorem AddrTable.Has_apply {t : AddrTable} (hnd : t.Nodup) {u : AddrUpdate} {j : Int}
    {k : List UInt8} : (t.apply u).Has j k ↔
      if u.NewAddr then t.Has j k ∨ (u.LinkIndex = j ∧ u.LinkAddress.key = k)
      else ∃ e ∈ t, e ≠ (u.LinkIndex, u.LinkAddress) ∧ e.1 = j ∧ e.2.key = k := by
  unfold AddrTable.apply
  split_ifs with hn hm
  · exact ⟨Or.inl, fun h => h.elim id fun ⟨hi, hk⟩ => ⟨_, hm, hi, hk⟩⟩
  · exact AddrTable.Has_append
  · exact AddrTable.Has_erase hnd

theorem AddrTable.apply_nodup {t : AddrTable} (hnd : t.Nodup) (u : AddrUpdate) :
    (t.apply u).Nodup := by
  unfold AddrTable.apply
  split_ifs with hn hm
  · exact hnd
  · exact List.nodup_append.2 ⟨hnd, List.nodup_singleton _, List.disjoint_singleton.2 hm⟩
  · exact hnd.erase _

theorem AddrTable.mem_apply {t : AddrTable} {u : AddrUpdate} {e : Int × IPNet}
    (h : e ∈ t.apply u) : e ∈ t ∨ e = (u.LinkIndex, u.LinkAddress) := by
  unfold AddrTable.apply at h
  split_ifs at h
  · exact .inl h
  · simpa using h
  · exact .inl (List.mem_of_mem_erase h)

/-! ## Cache beside table -/

/-- The cache beside the table it is fed from. -/
structure AddrWorld where
  table : AddrTable
  cache : AddrCache

/-- Subscription start: `IfindexToAddrsInit`, nothing reported yet. -/
def AddrWorld.init : AddrWorld := ⟨[], IfindexToAddrsInit⟩

/-- One event: the table changes, the handler updates the cache and returns its flag. -/
def AddrWorld.step (w : AddrWorld) (u : AddrUpdate) : Bool × AddrWorld :=
  ((addrChangeCache w.cache u).1, ⟨w.table.apply u, (addrChangeCache w.cache u).2⟩)

/-- The worlds reached by events the kernel can send, every table on the way
satisfying `ok`. -/
inductive AddrReachable (ok : AddrTable → Prop) : AddrWorld → Prop
  | init : AddrReachable ok AddrWorld.init
  | step {w : AddrWorld} {u : AddrUpdate} : AddrReachable ok w → w.table.CanEmit u →
      ok (w.table.apply u) → AddrReachable ok (w.step u).2

/-- `addrChangeCache` at each ifindex: an add appends unless an entry matches, a delete
removes the first entry that matches. -/
theorem cacheAt_addrChangeCache (m : AddrCache) (u : AddrUpdate) (j : Int) :
    cacheAt (addrChangeCache m u).2 j =
      if j = u.LinkIndex then
        if u.NewAddr then
          if (cacheAt m j).any (sameEntry · u.LinkAddress) then cacheAt m j
          else cacheAt m j ++ [u.LinkAddress]
        else (cacheAt m j).eraseP (sameEntry · u.LinkAddress)
      else cacheAt m j := by
  by_cases hj : j = u.LinkIndex
  · subst hj
    cases hf : (cacheAt m u.LinkIndex).any (sameEntry · u.LinkAddress)
    · have he : (cacheAt m u.LinkIndex).eraseP (sameEntry · u.LinkAddress) =
          cacheAt m u.LinkIndex :=
        List.eraseP_of_forall_not fun a ha h => by
          simpa [h] using List.any_eq_false.1 hf a ha
      cases hn : u.NewAddr <;>
        simp [addrChangeCache, IfindexToAddrsAdd_eq, IfindexToAddrsDel_eq, hf, hn, he]
    · cases hn : u.NewAddr <;>
        simp [addrChangeCache, IfindexToAddrsAdd_eq, IfindexToAddrsDel_eq, hf, hn]
  · cases hf : (cacheAt m u.LinkIndex).any (sameEntry · u.LinkAddress) <;>
      cases hn : u.NewAddr <;>
      simp [addrChangeCache, IfindexToAddrsAdd_eq, IfindexToAddrsDel_eq, hf, hn, hj]

/-- An event leaves the cache of every other ifindex as it was. -/
theorem addrChangeCache_other (m : AddrCache) (u : AddrUpdate) {j : Int} (hj : j ≠ u.LinkIndex) :
    (addrChangeCache m u).2 j = m j := by
  unfold addrChangeCache
  split <;> simp only [IfindexToAddrsAdd_eq, IfindexToAddrsDel_eq] <;> split <;>
    simp [Function.update_noteq hj]

/-- The flag: an add reports a change when no entry matches, a delete when one does. -/
theorem addrChangeCache_flag (m : AddrCache) (u : AddrUpdate) :
    (addrChangeCache m u).1 =
      if u.NewAddr then !(cacheAt m u.LinkIndex).any (sameEntry · u.LinkAddress)
      else (cacheAt m u.LinkIndex).any (sameEntry · u.LinkAddress) := by
  cases hf : (cacheAt m u.LinkIndex).any (sameEntry · u.LinkAddress) <;> cases hn : u.NewAddr <;>
    simp [addrChangeCache, IfindexToAddrsAdd_eq, IfindexToAddrsDel_eq, hf, hn]

section Step

variable {w : AddrWorld} {u : AddrUpdate}

/-- An event changes the keys at its own ifindex only: a new address is appended unless
its key is there, a deleted one's key is erased. -/
theorem AddrWorld.keysAt_step (hwf : ∀ a ∈ cacheAt w.cache u.LinkIndex, a.WellFormed)
    (hx : u.LinkAddress.WellFormed) (j : Int) :
    keysAt (w.step u).2.cache j =
      if j = u.LinkIndex then
        if u.NewAddr then
          if u.LinkAddress.key ∈ keysAt w.cache j then keysAt w.cache j
          else keysAt w.cache j ++ [u.LinkAddress.key]
        else (keysAt w.cache j).erase u.LinkAddress.key
      else keysAt w.cache j := by
  simp only [keysAt, AddrWorld.step, cacheAt_addrChangeCache]
  split_ifs with hj hn hk hf hf <;> subst_vars
  · rfl
  · exact absurd ((any_sameEntry_iff hwf hx).1 hk) hf
  · exact absurd ((any_sameEntry_iff hwf hx).2 hf) hk
  · simp
  · exact map_key_eraseP hx hwf
  · rfl

/-- The flag, in keys. -/
theorem AddrWorld.flag_step (hwf : ∀ a ∈ cacheAt w.cache u.LinkIndex, a.WellFormed)
    (hx : u.LinkAddress.WellFormed) :
    (w.step u).1 = true ↔
      (u.NewAddr = true ↔ u.LinkAddress.key ∉ keysAt w.cache u.LinkIndex) := by
  rw [AddrWorld.step, addrChangeCache_flag, keysAt, ← any_sameEntry_iff hwf hx]
  cases u.NewAddr <;> simp

/-- Every entry the cache holds after an event was there before or is the event's. -/
theorem AddrWorld.mem_cacheAt_step {j : Int} {a : IPNet}
    (h : a ∈ cacheAt (w.step u).2.cache j) : a ∈ cacheAt w.cache j ∨ a = u.LinkAddress := by
  simp only [AddrWorld.step, cacheAt_addrChangeCache] at h
  split_ifs at h
  · exact .inl h
  · simpa using h
  · exact .inl (List.mem_of_mem_eraseP h)
  · exact .inl h

end Step

/-! ## What every event sequence keeps -/

/-- What every reachable world satisfies, in keys. -/
structure AddrWorld.Inv (w : AddrWorld) : Prop where
  table_nodup : w.table.Nodup
  table_wf : ∀ e ∈ w.table, e.2.WellFormed
  cache_wf : ∀ i, ∀ a ∈ cacheAt w.cache i, a.WellFormed
  cache_nodup : ∀ i, (keysAt w.cache i).Nodup
  cache_sub : ∀ i k, k ∈ keysAt w.cache i → w.table.Has i k

theorem AddrWorld.Inv.init : AddrWorld.init.Inv where
  table_nodup := List.nodup_nil
  table_wf := by simp [AddrWorld.init]
  cache_wf := by simp [AddrWorld.init]
  cache_nodup := by simp [AddrWorld.init, keysAt]
  cache_sub := by simp [AddrWorld.init, keysAt]

/-- A key the cache holds after an event is assigned in the new table. -/
theorem AddrWorld.Inv.cache_sub_step {w : AddrWorld} {u : AddrUpdate} (hw : w.Inv)
    (hx : u.LinkAddress.WellFormed) {j : Int} {k : List UInt8}
    (hk : k ∈ keysAt (w.step u).2.cache j) : (w.table.apply u).Has j k := by
  rw [AddrWorld.keysAt_step (hw.cache_wf u.LinkIndex) hx] at hk
  rw [AddrTable.Has_apply hw.table_nodup]
  by_cases hj : j = u.LinkIndex <;> cases hn : u.NewAddr <;>
    simp only [hj, hn, if_true, if_false, Bool.false_eq_true] at hk ⊢
  · -- a delete at its own ifindex: the key is not the deleted one
    obtain ⟨hne, hk⟩ := (hw.cache_nodup _).mem_erase_iff.1 hk
    obtain ⟨e, he, hi, hke⟩ := hw.cache_sub _ _ hk
    exact ⟨e, he, fun h => hne (by rw [← hke, h]), hi, hke⟩
  · split_ifs at hk
    · exact .inl (hw.cache_sub _ _ hk)
    · rcases List.mem_append.1 hk with hk | hk
      · exact .inl (hw.cache_sub _ _ hk)
      · exact .inr ⟨trivial, (List.mem_singleton.1 hk).symm⟩
  · -- a delete elsewhere leaves this ifindex's entries
    obtain ⟨e, he, hi, hke⟩ := hw.cache_sub _ _ hk
    exact ⟨e, he, fun h => hj (by rw [← hi, h]), hi, hke⟩
  · exact .inl (hw.cache_sub _ _ hk)

/-- One event keeps the invariant. -/
theorem AddrWorld.Inv.step {w : AddrWorld} {u : AddrUpdate} (hw : w.Inv)
    (hu : w.table.CanEmit u) : (w.step u).2.Inv := by
  obtain ⟨hx, -⟩ := hu
  refine ⟨w.table.apply_nodup hw.table_nodup u, ?_, ?_, ?_,
    fun j k hk => hw.cache_sub_step hx hk⟩
  · intro e he
    rcases AddrTable.mem_apply he with he | rfl
    exacts [hw.table_wf e he, hx]
  · intro i a ha
    rcases AddrWorld.mem_cacheAt_step ha with ha | rfl
    exacts [hw.cache_wf i a ha, hx]
  · intro j
    have hnd := hw.cache_nodup j
    rw [AddrWorld.keysAt_step (hw.cache_wf u.LinkIndex) hx]
    split_ifs with hj hn hk
    · exact hnd
    · exact List.nodup_append.2 ⟨hnd, List.nodup_singleton _, List.disjoint_singleton.2 hk⟩
    · exact hnd.erase _
    · exact hnd

theorem AddrReachable.inv {ok : AddrTable → Prop} {w : AddrWorld} (h : AddrReachable ok w) :
    w.Inv := by
  induction h with
  | init => exact AddrWorld.Inv.init
  | step _ hu _ ih => exact ih.step hu

/-! ## One address under one prefix -/

/-- The cache holds every key the table assigns. -/
def AddrWorld.Complete (w : AddrWorld) : Prop :=
  ∀ i k, w.table.Has i k → k ∈ keysAt w.cache i

/-- Under `SinglePrefix`, the deleted entry is the only one with its key. -/
theorem AddrTable.SinglePrefix.key_eq {t : AddrTable} (hs : t.SinglePrefix)
    (hwf : ∀ e ∈ t, e.2.WellFormed) {e e' : Int × IPNet} (he : e ∈ t) (he' : e' ∈ t)
    (hi : e.1 = e'.1) (hk : e.2.key = e'.2.key) : e = e' :=
  hs e he e' he' hi ((IP.Equal_iff (hwf e he).valid (hwf e' he').valid).2 hk)

/-- An event keeps the cache complete while every table has one prefix per address. -/
theorem AddrWorld.complete_step {w : AddrWorld} {u : AddrUpdate} (hw : w.Inv)
    (hc : w.Complete) (hs : w.table.SinglePrefix) (hu : w.table.CanEmit u) :
    (w.step u).2.Complete := by
  obtain ⟨hx, hdel⟩ := hu
  intro j k hk
  rw [AddrWorld.keysAt_step (hw.cache_wf u.LinkIndex) hx]
  replace hk := (AddrTable.Has_apply hw.table_nodup).1 hk
  by_cases hj : j = u.LinkIndex <;> cases hn : u.NewAddr <;>
    simp only [hj, hn, if_true, if_false, Bool.false_eq_true] at hk ⊢
  · -- a delete at its own ifindex: another entry with the key would share its address
    obtain ⟨e, he, hne, hi, rfl⟩ := hk
    have hdel' := hdel hn
    refine List.mem_erase_of_ne (fun hkey => hne ?_) |>.2 (hc _ _ ⟨e, he, hi, rfl⟩)
    exact hs.key_eq hw.table_wf he hdel' hi hkey
  · rcases hk with hk | ⟨-, rfl⟩
    · split_ifs
      exacts [hc _ _ hk, List.mem_append_left _ (hc _ _ hk)]
    · split_ifs with hm
      exacts [hm, List.mem_append_right _ (List.mem_singleton_self _)]
  · obtain ⟨e, he, -, hi, rfl⟩ := hk
    exact hc _ _ ⟨e, he, hi, rfl⟩
  · rcases hk with hk | ⟨hi, -⟩
    exacts [hc _ _ hk, absurd hi.symm hj]

/-- While the table has one prefix per address, each flag is true exactly when the set
of addresses of the event's ifindex changed. -/
theorem AddrWorld.changed_iff {w : AddrWorld} {u : AddrUpdate} (hw : w.Inv)
    (hc : w.Complete) (hs : w.table.SinglePrefix) (hu : w.table.CanEmit u) :
    (w.step u).1 = true ↔ IPSetChanged w.table (w.table.apply u) u.LinkIndex := by
  obtain ⟨hx, hdel⟩ := hu
  have hwf' : ∀ e ∈ w.table.apply u, e.2.WellFormed := (hw.step ⟨hx, hdel⟩).table_wf
  rw [AddrWorld.flag_step (hw.cache_wf _) hx]
  cases hn : u.NewAddr
  · -- a delete: its entry is cached, and no other entry of the link has its address
    have hmem := hdel hn
    simp only [hc _ _ ⟨_, hmem, rfl, rfl⟩, not_true_eq_false, Bool.false_eq_true, iff_self,
      true_iff]
    intro h
    obtain ⟨e, he, hi, hEq⟩ := (h u.LinkAddress.IP).1 ⟨_, hmem, rfl, IP.Equal_refl _⟩
    have he' : e ∈ w.table ∧ e ≠ (u.LinkIndex, u.LinkAddress) := by
      simpa [AddrTable.apply, hn, hw.table_nodup.mem_erase_iff, and_comm] using he
    exact he'.2 (hs e he'.1 _ hmem hi hEq)
  · simp only [true_iff]
    by_cases hkey : u.LinkAddress.key ∈ keysAt w.cache u.LinkIndex
    · -- already cached, hence already assigned: nothing changes
      simp only [hkey, not_true_eq_false, false_iff, IPSetChanged, not_not]
      intro ip
      rw [AddrTable.Assigned_iff hw.table_wf, AddrTable.Assigned_iff hwf',
        AddrTable.Has_apply hw.table_nodup]
      simp only [hn, if_true]
      exact and_congr_right fun _ => ⟨.inl, fun h => h.elim id fun ⟨_, hk⟩ =>
        hk ▸ hw.cache_sub _ _ hkey⟩
    · -- not cached, hence not assigned before: the address is new
      simp only [hkey, not_false_eq_true, true_iff]
      intro h
      have h2 : (w.table.apply u).Assigned u.LinkIndex u.LinkAddress.IP := by
        rw [AddrTable.Assigned_iff hwf', AddrTable.Has_apply hw.table_nodup]
        simp only [hn, if_true]
        exact ⟨hx.valid, .inr ⟨trivial, rfl⟩⟩
      have h1 := (AddrTable.Assigned_iff hw.table_wf).1 ((h _).2 h2)
      exact hkey (hc _ _ h1.2)

theorem AddrReachable.complete {w : AddrWorld} (h : AddrReachable AddrTable.SinglePrefix w) :
    w.table.SinglePrefix ∧ w.Complete := by
  induction h with
  | init =>
    exact ⟨by simp [AddrWorld.init, AddrTable.SinglePrefix],
      by simp [AddrWorld.Complete, AddrWorld.init, AddrTable.Has]⟩
  | step hr hu hok ih => exact ⟨hok, AddrWorld.complete_step hr.inv ih.2 ih.1 hu⟩

/-! ## The cache in addresses -/

/-- The cache never holds an address twice for one ifindex, nor one that is not
assigned to it. -/
def AddrCacheSound (w : AddrWorld) : Prop :=
  ∀ i, (cacheAt w.cache i).Pairwise (fun a b => a.IP.Equal b.IP = false) ∧
    ∀ a ∈ cacheAt w.cache i, w.table.Assigned i a.IP

/-- The cache holds, for every ifindex, exactly the addresses assigned to it. -/
def Mirrors (w : AddrWorld) : Prop :=
  ∀ i ip, (∃ a ∈ cacheAt w.cache i, a.IP.Equal ip = true) ↔ w.table.Assigned i ip

theorem AddrWorld.Inv.sound {w : AddrWorld} (hw : w.Inv) : AddrCacheSound w := by
  intro i
  refine ⟨(List.pairwise_map.1 (hw.cache_nodup i)).imp_of_mem fun ha hb hne => ?_,
    fun a ha => ?_⟩
  · exact Bool.eq_false_iff.2 fun h =>
      hne ((IP.Equal_iff (hw.cache_wf i _ ha).valid (hw.cache_wf i _ hb).valid).1 h)
  · rw [AddrTable.Assigned_iff hw.table_wf]
    exact ⟨(hw.cache_wf i a ha).valid, hw.cache_sub i _ (List.mem_map_of_mem _ ha)⟩

theorem AddrWorld.Inv.mirrors {w : AddrWorld} (hw : w.Inv) (hc : w.Complete) : Mirrors w := by
  intro i ip
  rw [AddrTable.Assigned_iff hw.table_wf]
  constructor
  · rintro ⟨a, ha, h⟩
    have hv := IP.Equal_valid (hw.cache_wf i a ha).valid h
    refine ⟨hv, hw.cache_sub i _ ?_⟩
    rw [← (IP.Equal_iff (hw.cache_wf i a ha).valid hv).1 h]
    exact List.mem_map_of_mem _ ha
  · rintro ⟨hv, hhas⟩
    obtain ⟨a, ha, hk⟩ := List.mem_map.1 (hc i _ hhas)
    exact ⟨a, ha, (IP.Equal_iff (hw.cache_wf i a ha).valid hv).2 hk⟩

/-- For every event sequence the cache holds each address once and only assigned
ones; while no ifindex has one address under two prefix lengths, it holds exactly the
assigned addresses and every flag reports exactly the changes of the address set. -/
theorem ifindexToAddrs_mirrors_table :
    (∀ w, AddrReachable (fun _ => True) w → AddrCacheSound w) ∧
    ∀ w, AddrReachable AddrTable.SinglePrefix w → AddrCacheSound w ∧ Mirrors w ∧
      ∀ u, w.table.CanEmit u →
        ((w.step u).1 = true ↔ IPSetChanged w.table (w.table.apply u) u.LinkIndex) := by
  refine ⟨fun w h => h.inv.sound, fun w h => ?_⟩
  obtain ⟨hs, hc⟩ := h.complete
  exact ⟨h.inv.sound, h.inv.mirrors hc, fun u hu => AddrWorld.changed_iff h.inv hc hs hu⟩

/-- An event for `10.0.0.1` on ifindex `1` with the given mask. -/
def addrUpdate10001 (mask : List UInt8) (newAddr : Bool) : AddrUpdate :=
  ⟨{ IP := ⟨[10, 0, 0, 1]⟩, Mask := mask }, 1, newAddr⟩

/-- Linux lets `10.0.0.1` sit on one link as `/24` and as `/16`. Once both are
reported, deleting the `/24` reports a change although the link's addresses are the
same, and the cache drops `10.0.0.1` while the `/16` is still assigned. -/
theorem ifindexToAddrs_drops_address_still_assigned :
    let w := ((AddrWorld.init.step (addrUpdate10001 [255, 255, 255, 0] true)).2.step
      (addrUpdate10001 [255, 255, 0, 0] true)).2
    let del := addrUpdate10001 [255, 255, 255, 0] false
    AddrReachable (fun _ => True) w ∧ w.table.CanEmit del ∧ (w.step del).1 = true ∧
      ¬ IPSetChanged w.table (w.table.apply del) 1 ∧ ¬ Mirrors (w.step del).2 := by
  intro w del
  have hcache : cacheAt (w.step del).2.cache 1 = [] := by decide
  have ht : (w.step del).2.table = [(1, (addrUpdate10001 [255, 255, 0, 0] true).LinkAddress)] := by
    decide
  refine ⟨.step (.step .init (by decide) trivial) (by decide) trivial, by decide, by decide,
    ?_, fun h => ?_⟩
  · have ht₀ : w.table = [(1, (addrUpdate10001 [255, 255, 255, 0] true).LinkAddress),
        (1, (addrUpdate10001 [255, 255, 0, 0] true).LinkAddress)] := by decide
    simp only [IPSetChanged, not_not]
    intro ip
    rw [show w.table.apply del = (w.step del).2.table from rfl, ht, ht₀]
    simp [AddrTable.Assigned, addrUpdate10001]
  · obtain ⟨a, ha, -⟩ := (h 1 ⟨[10, 0, 0, 1]⟩).2
      ⟨_, by rw [ht]; exact List.mem_singleton_self _, rfl, IP.Equal_refl _⟩
    simp [hcache] at ha

end GoProvision
