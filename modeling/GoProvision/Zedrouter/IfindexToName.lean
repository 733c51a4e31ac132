import Mathlib.Logic.Function.Basic
import Mathlib.Data.List.Nodup

/-!
# GoProvision — the ifindex → name cache

zedrouter keeps `ifindexToName`, a Go map from ifindex to the link's name and type, fed
by netlink link events: `IfindexToNameAdd` records a link or its new name, and
`IfindexToNameDel` drops a link whatever name the event carries. `IfindexToName` and
`IfnameToIndex` answer from the map and ask the kernel (`netlink.LinkByIndex`,
`netlink.LinkByName`, parameters here) on a miss. `IfnameToIndex` ranges over the map,
so the entry it finds first depends on Go's iteration order, which is an argument of the
model.

The link handler that calls `IfindexToNameAdd` and `IfindexToNameDel` for this version of
the cache is not in the source; `linkChangeCache` dispatches on the event as the link
handler of `devicenetwork` does. As for the address cache, we run the cache beside the
kernel's link table the events describe: `RTM_NEWLINK` for a link that appears or
changes (it may take a name no other link has, and keeps its type), `RTM_DELLINK` for a
link that goes.

Main results:

* `ifindexToName_mirrors_table` — over every event sequence the cache is the kernel's
  link table and no two links share a name; the flag `IfindexToNameAdd` returns is true
  for a link that appears, not for a rename.
* `IfnameToIndex_of_mirrors` — so `IfnameToIndex` returns the kernel's index of a link,
  whatever order Go ranges over the map in, and `IfindexToName` its name and type.
-/

namespace GoProvision

/-- `linkNameType`. -/
structure LinkNameType where
  linkName : String
  linkType : String
  deriving DecidableEq, Repr

/-- `ifindexToName`: `none` for an ifindex the map has no entry for. -/
abbrev IfindexToNameMap := Int → Option LinkNameType

/-- `IfindexToNameInit`. -/
def IfindexToNameInit : IfindexToNameMap := fun _ => none

/-- `IfindexToNameAdd`: true if the index is new. A known index under another name takes
the event's name and type and returns false; under the same name nothing changes. -/
def IfindexToNameAdd (m : IfindexToNameMap) (index : Int) (linkName linkType : String) :
    Bool × IfindexToNameMap :=
  match m index with
  | none => (true, Function.update m index (some ⟨linkName, linkType⟩))
  | some n =>
    if n.linkName ≠ linkName then (false, Function.update m index (some ⟨linkName, linkType⟩))
    else (false, m)

/-- `IfindexToNameDel`: true if the index was known. A name that differs from the recorded
one is only logged: the entry goes in both branches. -/
def IfindexToNameDel (m : IfindexToNameMap) (index : Int) (linkName : String) :
    Bool × IfindexToNameMap :=
  match m index with
  | none => (false, m)
  | some n =>
    if n.linkName ≠ linkName then (true, Function.update m index none)
    else (true, Function.update m index none)

/-- `IfindexToName`: the link's name and type, from the map or, on a miss, from the
kernel. -/
def IfindexToName (m : IfindexToNameMap) (LinkByIndex : Int → Except String LinkNameType)
    (index : Int) : Except String (String × String) :=
  match m index with
  | some n => .ok (n.linkName, n.linkType)
  | none =>
    match LinkByIndex index with
    | .error _ => .error ("Unknown ifindex " ++ toString index)
    | .ok link => .ok (link.linkName, link.linkType)

/-- `IfnameToIndex`, ranging over the map's indices in the order `order`: the first index
recorded under `ifname`, or, on a miss, the kernel's answer. -/
def IfnameToIndex (m : IfindexToNameMap) (order : List Int)
    (LinkByName : String → Except String Int) (ifname : String) : Except String Int :=
  match order.find? fun i => (m i).any (·.linkName == ifname) with
  | some i => .ok i
  | none =>
    match LinkByName ifname with
    | .error _ => .error ("Unknown ifname " ++ ifname)
    | .ok index => .ok index

/-- An order Go may range over the map in: every index with an entry, once. -/
def MapOrder (m : IfindexToNameMap) (order : List Int) : Prop :=
  order.Nodup ∧ ∀ i, i ∈ order ↔ (m i).isSome

/-- `netlink.LinkUpdate`: `RTM_NEWLINK` or `RTM_DELLINK`, and the link's index, name and
type (`Link.Type()`). -/
structure LinkUpdate where
  NewLink : Bool
  Index : Int
  Name : String
  LinkType : String
  deriving DecidableEq, Repr

/-- Modelled from the spec: the link handler's call into the cache; the flag is
`changed`. -/
def linkChangeCache (m : IfindexToNameMap) (change : LinkUpdate) : Bool × IfindexToNameMap :=
  if change.NewLink then IfindexToNameAdd m change.Index change.Name change.LinkType
  else IfindexToNameDel m change.Index change.Name

/-! ## The kernel's link table -/

/-- The kernel's links, by index. -/
abbrev LinkTable := Int → Option LinkNameType

/-- The table after an event: the link's current name and type, or no link. -/
def LinkTable.apply (t : LinkTable) (u : LinkUpdate) : LinkTable :=
  Function.update t u.Index (if u.NewLink then some ⟨u.Name, u.LinkType⟩ else none)

/-- The events the kernel sends about its table: a link that appears or changes carries
a name no other link has and keeps its type; a link that goes is reported as it was. -/
def LinkTable.CanEmit (t : LinkTable) (u : LinkUpdate) : Prop :=
  if u.NewLink then
    (∀ j n, t j = some n → n.linkName = u.Name → j = u.Index) ∧
      ∀ n, t u.Index = some n → n.linkType = u.LinkType
  else t u.Index = some ⟨u.Name, u.LinkType⟩

/-- No two links share a name. -/
def LinkTable.NamesUnique (t : LinkTable) : Prop :=
  ∀ i j n n', t i = some n → t j = some n' → n.linkName = n'.linkName → i = j

/-- The cache beside the table it is fed from. -/
structure LinkWorld where
  table : LinkTable
  cache : IfindexToNameMap

/-- Subscription start: `IfindexToNameInit`, nothing reported yet. -/
def LinkWorld.init : LinkWorld := ⟨fun _ => none, IfindexToNameInit⟩

/-- One event: the table changes, the handler updates the cache and returns its flag. -/
def LinkWorld.step (w : LinkWorld) (u : LinkUpdate) : Bool × LinkWorld :=
  ((linkChangeCache w.cache u).1, ⟨w.table.apply u, (linkChangeCache w.cache u).2⟩)

/-- The worlds reached by events the kernel can send. -/
inductive LinkReachable : LinkWorld → Prop
  | init : LinkReachable LinkWorld.init
  | step {w : LinkWorld} {u : LinkUpdate} : LinkReachable w → w.table.CanEmit u →
      LinkReachable (w.step u).2

/-! ## One event -/

section Step

variable {t : LinkTable} {u : LinkUpdate}

/-- On a cache equal to the table, the handler computes the kernel's new table, and its
flag is true for a link that appears and for a link that goes. -/
theorem linkChangeCache_of_canEmit (hu : t.CanEmit u) :
    linkChangeCache t u = (u.NewLink && (t u.Index).isNone || !u.NewLink, t.apply u) := by
  unfold LinkTable.CanEmit at hu
  cases hn : u.NewLink <;> simp only [hn, if_true, if_false, Bool.false_eq_true] at hu
  · simp [linkChangeCache, IfindexToNameDel, LinkTable.apply, hn, hu]
  · obtain ⟨-, htype⟩ := hu
    cases ht : t u.Index with
    | none => simp [linkChangeCache, IfindexToNameAdd, LinkTable.apply, hn, ht]
    | some n =>
      by_cases hname : n.linkName = u.Name
      · have hnu : n = ⟨u.Name, u.LinkType⟩ := by
          cases n; simp_all
        simp [linkChangeCache, IfindexToNameAdd, LinkTable.apply, hn, ht, hname, ← hnu,
          Function.update_eq_self_iff]
      · simp [linkChangeCache, IfindexToNameAdd, LinkTable.apply, hn, ht, hname]

/-- Events the kernel can send keep names unique. -/
theorem LinkTable.NamesUnique.apply (ht : t.NamesUnique) (hu : t.CanEmit u) :
    (t.apply u).NamesUnique := by
  unfold LinkTable.CanEmit at hu
  intro i j n n' hi hj hname
  cases hn : u.NewLink <;> simp only [hn, if_true, if_false, Bool.false_eq_true] at hu
  · simp only [LinkTable.apply, hn, Bool.false_eq_true, if_false, Function.update_apply] at hi hj
    split_ifs at hi hj
    exact ht i j n n' hi hj hname
  · simp only [LinkTable.apply, hn, if_true, Function.update_apply] at hi hj
    split_ifs at hi hj with hi' hj' hj'
    · exact hi'.trans hj'.symm
    · obtain rfl := Option.some.inj hi
      exact hi'.trans (hu.1 j n' hj hname.symm).symm
    · obtain rfl := Option.some.inj hj
      exact (hu.1 i n hi hname).trans hj'.symm
    · exact ht i j n n' hi hj hname

end Step

/-! ## Every run -/

/-- Along every run the cache is the kernel's link table, and no two links share a name. -/
theorem LinkReachable.inv {w : LinkWorld} (h : LinkReachable w) :
    w.cache = w.table ∧ w.table.NamesUnique := by
  induction h with
  | init => exact ⟨rfl, fun _ _ _ _ h => nomatch h⟩
  | step _ hu ih =>
    obtain ⟨hc, hn⟩ := ih
    refine ⟨?_, hn.apply hu⟩
    simp only [LinkWorld.step, hc, linkChangeCache_of_canEmit hu]

/-- Over every event sequence the cache is the kernel's link table, no two links share a
name, and the flag of the next event is true exactly for a link that appears or goes:
`IfindexToNameAdd` does not report a rename. -/
theorem ifindexToName_mirrors_table {w : LinkWorld} (h : LinkReachable w) :
    w.cache = w.table ∧ w.table.NamesUnique ∧
      ∀ u, w.table.CanEmit u →
        (w.step u).1 = (u.NewLink && (w.table u.Index).isNone || !u.NewLink) := by
  refine ⟨h.inv.1, h.inv.2, fun u hu => ?_⟩
  simp only [LinkWorld.step, h.inv.1, linkChangeCache_of_canEmit hu]

/-- `eth0` appears at ifindex 2. -/
def eth0Link : LinkUpdate := ⟨true, 2, "eth0", "device"⟩

/-- `eth0` appears and is then renamed `eth1`: the rename reports no change. -/
theorem ifindexToName_mirrors_eth0_rename :
    LinkReachable (LinkWorld.init.step eth0Link).2 ∧
      ((LinkWorld.init.step eth0Link).2.step { eth0Link with Name := "eth1" }).1 = false := by
  have h : LinkReachable (LinkWorld.init.step eth0Link).2 :=
    .step .init (by simp [LinkTable.CanEmit, LinkWorld.init, eth0Link])
  refine ⟨h, (ifindexToName_mirrors_table h).2.2 _ ?_⟩
  simp only [LinkTable.CanEmit, LinkWorld.step, LinkWorld.init, LinkTable.apply, eth0Link,
    Function.update_apply, if_true]
  refine ⟨fun j n hj _ => ?_, fun n hn => by cases hn; rfl⟩
  split_ifs at hj with h2
  exact h2

/-! ## Lookups -/

section Lookup

variable {m : IfindexToNameMap} {order : List Int}

/-- Under unique names, `IfnameToIndex` finds the index recorded under a name, in every
iteration order. -/
theorem IfnameToIndex_of_unique (ho : MapOrder m order) (hu : LinkTable.NamesUnique m)
    {i : Int} {n : LinkNameType} (hi : m i = some n)
    (LinkByName : String → Except String Int) :
    IfnameToIndex m order LinkByName n.linkName = .ok i := by
  have hmem : i ∈ order := (ho.2 i).2 (by simp [hi])
  cases hf : order.find? fun j => (m j).any (·.linkName == n.linkName) with
  | none =>
    have := List.find?_eq_none.1 hf i hmem
    simp [hi] at this
  | some j =>
    have hj := List.find?_some hf
    cases hmj : m j with
    | none => simp [hmj] at hj
    | some n' =>
      simp only [hmj, Option.any_some, beq_iff_eq] at hj
      simp [IfnameToIndex, hf, hu j i n' n hmj hi hj]

/-- A name no entry carries goes to the kernel, in every iteration order. -/
theorem IfnameToIndex_of_miss {ifname : String}
    (hmiss : ∀ i n, m i = some n → n.linkName ≠ ifname)
    (LinkByName : String → Except String Int) :
    IfnameToIndex m order LinkByName ifname =
      match LinkByName ifname with
      | .error _ => .error ("Unknown ifname " ++ ifname)
      | .ok index => .ok index := by
  have hf : (order.find? fun i => (m i).any (·.linkName == ifname)) = none :=
    List.find?_eq_none.2 fun i _ => by
      cases hmi : m i with
      | none => simp
      | some n => simpa using hmiss i n hmi
  simp only [IfnameToIndex, hf]

end Lookup

/-- Along every run, whatever order Go ranges over the map in, `IfindexToName` answers
with the kernel's name and type of every link, `IfnameToIndex` with the kernel's index of
every link's name, and only a name no link has is asked of the kernel. -/
theorem IfnameToIndex_of_mirrors {w : LinkWorld} (h : LinkReachable w) {order : List Int}
    (ho : MapOrder w.cache order) (LinkByIndex : Int → Except String LinkNameType)
    (LinkByName : String → Except String Int) :
    (∀ i n, w.table i = some n →
      IfindexToName w.cache LinkByIndex i = .ok (n.linkName, n.linkType) ∧
        IfnameToIndex w.cache order LinkByName n.linkName = .ok i) ∧
      ∀ ifname, (∀ i n, w.table i = some n → n.linkName ≠ ifname) →
        IfnameToIndex w.cache order LinkByName ifname =
          match LinkByName ifname with
          | .error _ => .error ("Unknown ifname " ++ ifname)
          | .ok index => .ok index := by
  obtain ⟨hc, hu⟩ := h.inv
  rw [hc] at ho ⊢
  exact ⟨fun i n hi => ⟨by simp [IfindexToName, hi], IfnameToIndex_of_unique ho hu hi LinkByName⟩,
    fun ifname hmiss => IfnameToIndex_of_miss hmiss LinkByName⟩

/-- With `eth0` at ifindex 2, `IfnameToIndex` finds it in the map. -/
theorem IfnameToIndex_of_mirrors_eth0 :
    MapOrder (LinkWorld.init.step eth0Link).2.cache [2] ∧
      IfnameToIndex (LinkWorld.init.step eth0Link).2.cache [2] (fun _ => .error "no link")
        "eth0" = .ok 2 := by
  have ho : MapOrder (LinkWorld.init.step eth0Link).2.cache [2] := by
    refine ⟨List.nodup_singleton 2, fun i => ?_⟩
    by_cases hi : i = 2 <;>
      simp [hi, LinkWorld.step, LinkWorld.init, linkChangeCache, IfindexToNameAdd,
        IfindexToNameInit, eth0Link]
  exact ⟨ho, ((IfnameToIndex_of_mirrors (.step .init (by
    simp [LinkTable.CanEmit, LinkWorld.init, eth0Link])) ho (fun _ => .error "no link")
    (fun _ => .error "no link")).1 2 ⟨"eth0", "device"⟩ rfl).2⟩

end GoProvision
