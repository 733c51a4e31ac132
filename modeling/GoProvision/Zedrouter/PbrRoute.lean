import GoProvision.Types
import GoProvision.Zedrouter.IfindexToName
import Mathlib.Data.List.Pairwise

/-!
# GoProvision — zedrouter's policy-based routing tables

zedrouter copies the kernel's main routing table into tables of its own. Each route of
the main table goes to the table of its link, `FreeTable + LinkIndex`; a route of a free
management port goes to `FreeTable` as well, where the free ports' routes meet.
`PbrRouteChange` does so from netlink route events, by `RouteAdd` and `RouteDel` calls
whose errors it only logs.

We run the handler beside the kernel's routes. A route is identified by its family,
table, destination and priority (the source's own comment: "Different LinkIndex, Src,
Scope doesn't matter"): `RouteAdd` of a route whose identity is taken fails with
`EEXIST`, and `RouteDel` removes the route of the identity and link it is given. The
main table changes by a route added with a fresh identity, or by a route deleted, and
the kernel reports each change as an event.

Main results:

* `PbrInv.step` — every change of the main table and its event keep zedrouter's tables
  exact copies of the main table, as long as no two copies share an identity.
* `pbr_tables_mirror_main` — so over every such run the tables zedrouter owns hold
  exactly the copies: each route in its link's table, and in `FreeTable` the routes of
  free management ports and the routes with no link (index 0, whose link table is
  `FreeTable` itself).
* `copiesDistinct_of_links` — the condition holds when every route has a link and no
  link has two link-local routes to one destination: the link-local hack keeps the
  `FreeTable` copies of different links apart.
* `PbrRouteChange_misses_replaced_route` — a route the kernel replaces in place
  (`NLM_F_REPLACE`, reported as a new route) is not copied: every `RouteAdd` meets the
  old copy's identity, and zedrouter's tables keep the old route.
* `pbr_boot_mirrors` — at the start, `PbrInit` flushes `FreeTable`, the routes its own
  `setFreeMgmtPorts` just moved there included, and the replay of the kernel's routes
  (`ListExisting`) sets up the copies: zedrouter's tables mirror the main table from a
  kernel whose routes are in the main table or in `FreeTable`.
-/

namespace GoProvision

/-! ## The route handler -/

/-- `FreeTable`: the table of the free management ports. A link's own table is
`FreeTable + ifindex`. -/
def FreeTable : Int := 500

/-- Not in the source: what `getDefaultRouteTable` returns on Linux,
`syscall.RT_TABLE_MAIN`. -/
def getDefaultRouteTable : Int := 254

/-- Not in the source: `getRouteUpdateTypeNEWROUTE`, `syscall.RTM_NEWROUTE` on Linux. -/
def getRouteUpdateTypeNEWROUTE : Nat := 24

/-- Not in the source: `getRouteUpdateTypeDELROUTE`, `syscall.RTM_DELROUTE` on Linux. -/
def getRouteUpdateTypeDELROUTE : Nat := 25

/-- `netlink.Route`: the fields the PBR code reads or sets, with the family and gateway
it copies. -/
structure Route where
  LinkIndex : Int := 0
  Dst : Option IPNet := none
  Gw : IP := ⟨[]⟩
  Family : Nat := 0
  Priority : Int := 0
  Table : Int := 0
  Flags : Int := 0
  deriving DecidableEq, Repr

/-- `netlink.RouteUpdate`: the message type (`Type`) and the route. -/
structure RouteUpdate where
  MsgType : Nat
  Route : Route
  deriving DecidableEq, Repr

/-- A netlink call on the kernel's routes. -/
inductive RouteCall
  | RouteAdd (rt : Route)
  | RouteDel (rt : Route)
  deriving DecidableEq, Repr

/-- The route a call is given. -/
def RouteCall.route : RouteCall → Route
  | .RouteAdd rt => rt
  | .RouteDel rt => rt

/-- The copy of a route the PBR code puts in `table` (`srt` and `myrt` of
`PbrRouteChange`, `art` of `moveRoutesTable`): flags cleared, "since add doesn't like
them", and with `linkLocalHack` a link-local destination takes the link's index as its
priority, "to make the kernel routes not appear identical". -/
def tableRoute (table : Int) (linkLocalHack : Bool) (rt : Route) : Route :=
  { rt with
    Table := table
    Priority := if linkLocalHack && rt.Dst.any (·.IP.IsLinkLocalUnicast) then rt.LinkIndex
      else rt.Priority
    Flags := if rt.Flags ≠ 0 then 0 else rt.Flags }

section TableRoute

variable {table : Int} {hack : Bool} {rt : Route}

@[simp] theorem tableRoute_Table : (tableRoute table hack rt).Table = table := rfl
@[simp] theorem tableRoute_LinkIndex : (tableRoute table hack rt).LinkIndex = rt.LinkIndex := rfl
@[simp] theorem tableRoute_Dst : (tableRoute table hack rt).Dst = rt.Dst := rfl
@[simp] theorem tableRoute_Family : (tableRoute table hack rt).Family = rt.Family := rfl

theorem tableRoute_Priority :
    (tableRoute table hack rt).Priority =
      if hack && rt.Dst.any (·.IP.IsLinkLocalUnicast) then rt.LinkIndex else rt.Priority := rfl

@[simp] theorem tableRoute_Flags : (tableRoute table hack rt).Flags = 0 := by
  simp only [tableRoute]
  split <;> omega

end TableRoute

/-- `doFreeTable` of `PbrRouteChange`: the route's link has a name, and it is a free
management port. -/
def doFreeTable (IfindexToName : Int → Except String (String × String))
    (deviceNetworkStatus : DeviceNetworkStatus) (index : Int) : Bool :=
  match IfindexToName index with
  | .error _ => false
  | .ok (ifname, _) => IsFreeMgmtPort deviceNetworkStatus ifname

/-- `PbrRouteChange`: the calls it makes for a route event. A route outside the main
table is ignored, zedrouter's own copies among them. -/
def PbrRouteChange (IfindexToName : Int → Except String (String × String))
    (deviceNetworkStatus : DeviceNetworkStatus) (change : RouteUpdate) : List RouteCall :=
  let rt := change.Route
  if rt.Table ≠ getDefaultRouteTable then [] else
  let doFree := doFreeTable IfindexToName deviceNetworkStatus rt.LinkIndex
  let srt := tableRoute FreeTable true rt
  let myrt := tableRoute (FreeTable + rt.LinkIndex) false rt
  if change.MsgType = getRouteUpdateTypeDELROUTE then
    (if doFree then [.RouteDel srt] else []) ++ [.RouteDel myrt]
  else if change.MsgType = getRouteUpdateTypeNEWROUTE then
    (if doFree then [.RouteAdd srt] else []) ++ [.RouteAdd myrt]
  else []

/-- The copies of a main-table route in zedrouter's tables: in `FreeTable` when `free`
holds of its link, and in its link's table. -/
def pbrCopies (free : Int → Bool) (rt : Route) : List Route :=
  (if free rt.LinkIndex then [tableRoute FreeTable true rt] else []) ++
    [tableRoute (FreeTable + rt.LinkIndex) false rt]

theorem mem_pbrCopies {free : Int → Bool} {rt x : Route} :
    x ∈ pbrCopies free rt ↔
      x = tableRoute (FreeTable + rt.LinkIndex) false rt ∨
        free rt.LinkIndex = true ∧ x = tableRoute FreeTable true rt := by
  unfold pbrCopies
  split <;> simp_all [or_comm]

/-- The copies of a route of a link are in zedrouter's tables, not in the main one. -/
theorem pbrCopies_Table {free : Int → Bool} {rt x : Route} (hl : 0 ≤ rt.LinkIndex)
    (hx : x ∈ pbrCopies free rt) : x.Table ≠ getDefaultRouteTable := by
  rcases mem_pbrCopies.1 hx with rfl | ⟨-, rfl⟩ <;>
    simp only [tableRoute_Table, FreeTable, getDefaultRouteTable] <;> omega

/-- The copies carry no flags, so the kernel takes them. -/
theorem pbrCopies_Flags {free : Int → Bool} {rt x : Route} (hx : x ∈ pbrCopies free rt) :
    x.Flags = 0 := by
  rcases mem_pbrCopies.1 hx with rfl | ⟨-, rfl⟩ <;> exact tableRoute_Flags

section Handler

variable {IfindexToName : Int → Except String (String × String)} {dns : DeviceNetworkStatus}
  {rt : Route}

/-- On a main-table route, a new route is added and a deleted one removed in each of
its copies. -/
theorem PbrRouteChange_new (hmain : rt.Table = getDefaultRouteTable) :
    PbrRouteChange IfindexToName dns ⟨getRouteUpdateTypeNEWROUTE, rt⟩ =
      (pbrCopies (doFreeTable IfindexToName dns) rt).map .RouteAdd := by
  simp only [PbrRouteChange, pbrCopies, hmain, ne_eq, not_true_eq_false, if_false,
    show getRouteUpdateTypeNEWROUTE ≠ getRouteUpdateTypeDELROUTE by decide, if_true]
  split <;> rfl

theorem PbrRouteChange_del (hmain : rt.Table = getDefaultRouteTable) :
    PbrRouteChange IfindexToName dns ⟨getRouteUpdateTypeDELROUTE, rt⟩ =
      (pbrCopies (doFreeTable IfindexToName dns) rt).map .RouteDel := by
  simp only [PbrRouteChange, pbrCopies, hmain, ne_eq, not_true_eq_false, if_false, if_true]
  split <;> rfl

end Handler

/-! ## The kernel's routes -/

/-- A route's identity in the kernel: family, table, destination and priority. The link
and the gateway do not count. -/
def Route.key (rt : Route) : Nat × Int × Option IPNet × Int :=
  (rt.Family, rt.Table, rt.Dst, rt.Priority)

/-- One call on the kernel's routes, in every table. `RouteAdd` fails on set flags and on
a taken identity; `RouteDel` removes the route of the identity and link it is given. A
failed call changes nothing. -/
def RouteCall.apply (rs : List Route) : RouteCall → List Route
  | .RouteAdd rt => if rt.Flags = 0 ∧ ∀ r ∈ rs, r.key ≠ rt.key then rs ++ [rt] else rs
  | .RouteDel rt => rs.eraseP fun r => r.key = rt.key ∧ r.LinkIndex = rt.LinkIndex

/-- The main table's routes. -/
def mainRoutes (rs : List Route) : List Route := rs.filter (·.Table = getDefaultRouteTable)

theorem mem_mainRoutes {rs : List Route} {r : Route} :
    r ∈ mainRoutes rs ↔ r ∈ rs ∧ r.Table = getDefaultRouteTable := by
  simp [mainRoutes]

/-- A change the kernel makes to its main table and reports as an event. -/
inductive MainChange
  | add (rt : Route)
  | del (rt : Route)
  deriving DecidableEq, Repr

/-- The event the kernel sends for a change. -/
def MainChange.update : MainChange → RouteUpdate
  | .add rt => ⟨getRouteUpdateTypeNEWROUTE, rt⟩
  | .del rt => ⟨getRouteUpdateTypeDELROUTE, rt⟩

/-- The changes the kernel makes: a main-table route of a link, or of none (index 0), with
an identity no route has; the removal of a main-table route. -/
def MainChange.CanApply (rs : List Route) : MainChange → Prop
  | .add rt => rt.Table = getDefaultRouteTable ∧ 0 ≤ rt.LinkIndex ∧ ∀ r ∈ rs, r.key ≠ rt.key
  | .del rt => rt ∈ mainRoutes rs

def MainChange.apply (rs : List Route) : MainChange → List Route
  | .add rt => rs ++ [rt]
  | .del rt => rs.erase rt

/-! ## Calls on the kernel -/

section Calls

variable {rs : List Route}

theorem Route.key_eq_iff {x y : Route} :
    x.key = y.key ↔
      x.Family = y.Family ∧ x.Table = y.Table ∧ x.Dst = y.Dst ∧ x.Priority = y.Priority := by
  simp [Route.key]

theorem Route.Table_eq_of_key {x y : Route} (h : x.key = y.key) : x.Table = y.Table :=
  (Route.key_eq_iff.1 h).2.1

/-- A route of a fresh identity keeps identities unique. -/
theorem keys_nodup_append (hk : (rs.map Route.key).Nodup) {rt : Route}
    (hfresh : ∀ r ∈ rs, r.key ≠ rt.key) : ((rs ++ [rt]).map Route.key).Nodup := by
  rw [List.map_append, List.nodup_append]
  exact ⟨hk, List.nodup_singleton _, List.disjoint_singleton.2 fun hm => by
    obtain ⟨r, hr, he⟩ := List.mem_map.1 hm
    exact hfresh r hr he⟩

theorem mainRoutes_append_main {rt : Route} (h : rt.Table = getDefaultRouteTable) :
    mainRoutes (rs ++ [rt]) = mainRoutes rs ++ [rt] := by
  simp [mainRoutes, List.filter_append, h]

/-- The kernel keeps identities unique, whatever the calls. -/
theorem keys_nodup_apply (hk : (rs.map Route.key).Nodup) (c : RouteCall) :
    ((c.apply rs).map Route.key).Nodup := by
  cases c with
  | RouteAdd rt =>
    simp only [RouteCall.apply]
    split_ifs with h
    · exact keys_nodup_append hk h.2
    · exact hk
  | RouteDel rt => exact hk.sublist ((List.eraseP_sublist rs).map _)

theorem keys_nodup_foldl (hk : (rs.map Route.key).Nodup) (cs : List RouteCall) :
    ((cs.foldl RouteCall.apply rs).map Route.key).Nodup := by
  induction cs generalizing rs with
  | nil => exact hk
  | cons c cs ih => exact ih (keys_nodup_apply hk c)

/-- Calls on other tables leave the main table as it is. -/
theorem mainRoutes_apply {c : RouteCall} (hc : c.route.Table ≠ getDefaultRouteTable) :
    mainRoutes (c.apply rs) = mainRoutes rs := by
  cases c with
  | RouteAdd rt =>
    simp only [RouteCall.apply]
    split_ifs
    · simp [mainRoutes, List.filter_append, hc.symm, RouteCall.route] at hc ⊢
      exact hc
    · rfl
  | RouteDel rt =>
    simp only [RouteCall.route] at hc
    induction rs with
    | nil => rfl
    | cons r rs ih =>
      by_cases hr : r.key = rt.key ∧ r.LinkIndex = rt.LinkIndex
      · have : r.Table ≠ getDefaultRouteTable := Route.Table_eq_of_key hr.1 ▸ hc
        simp [RouteCall.apply, List.eraseP_cons_of_pos, hr, mainRoutes, List.filter_cons, this]
      · simp only [RouteCall.apply, mainRoutes] at ih ⊢
        rw [List.eraseP_cons_of_neg (by simpa using hr), List.filter_cons, List.filter_cons, ih]

theorem mainRoutes_foldl {cs : List RouteCall}
    (hc : ∀ c ∈ cs, c.route.Table ≠ getDefaultRouteTable) :
    mainRoutes (cs.foldl RouteCall.apply rs) = mainRoutes rs := by
  induction cs generalizing rs with
  | nil => rfl
  | cons c cs ih =>
    rw [List.foldl_cons, ih fun c' hc' => hc c' (.tail _ hc'), mainRoutes_apply (hc c (.head _))]

/-- Routes of fresh identities are added, in order. -/
theorem foldl_RouteAdd_fresh {cs : List Route} (hf : ∀ c ∈ cs, c.Flags = 0)
    (hk : ((rs ++ cs).map Route.key).Nodup) :
    (cs.map .RouteAdd).foldl RouteCall.apply rs = rs ++ cs := by
  induction cs generalizing rs with
  | nil => simp
  | cons c cs ih =>
    have hfresh : ∀ r ∈ rs, r.key ≠ c.key := fun r hr he =>
      List.disjoint_left.1 (List.nodup_append.1 (List.map_append _ _ _ ▸ hk)).2.2
        (List.mem_map_of_mem _ hr) (he ▸ List.mem_map_of_mem _ (List.mem_cons_self c cs))
    have hadd : RouteCall.apply rs (.RouteAdd c) = rs ++ [c] :=
      if_pos ⟨hf c (.head _), hfresh⟩
    rw [List.map_cons, List.foldl_cons, hadd, ih (fun c' hc' => hf c' (.tail _ hc'))
      (by simpa using hk)]
    simp

/-- Routes whose identity is taken are not added. -/
theorem foldl_RouteAdd_taken {cs : List Route} (ht : ∀ c ∈ cs, ∃ r ∈ rs, r.key = c.key) :
    (cs.map .RouteAdd).foldl RouteCall.apply rs = rs := by
  induction cs with
  | nil => rfl
  | cons c cs ih =>
    obtain ⟨r, hr, he⟩ := ht c (.head _)
    have hkeep : RouteCall.apply rs (.RouteAdd c) = rs := if_neg fun h => h.2 r hr he
    rw [List.map_cons, List.foldl_cons, hkeep, ih fun c' hc' => ht c' (.tail _ hc')]

/-- `RouteDel` of a route the kernel holds removes exactly that route. -/
theorem apply_RouteDel_mem (hk : (rs.map Route.key).Nodup) {c : Route} (hc : c ∈ rs) :
    RouteCall.apply rs (.RouteDel c) = rs.erase c := by
  induction rs with
  | nil => rfl
  | cons r rs ih =>
    have hk' := List.nodup_cons.1 (List.map_cons _ _ _ ▸ hk)
    by_cases hrc : r = c
    · subst hrc
      simp [RouteCall.apply]
    · have hcr : c ∈ rs := (List.mem_cons.1 hc).resolve_left (Ne.symm hrc)
      have hkey : r.key ≠ c.key := fun he => hk'.1 (he ▸ List.mem_map_of_mem _ hcr)
      simp only [RouteCall.apply] at ih ⊢
      rw [List.eraseP_cons_of_neg (by simp [hkey]), List.erase_cons_tail (by simpa using hrc),
        ih hk'.2 hcr]

/-- Deleting routes the kernel holds, of distinct identities, removes exactly them. -/
theorem mem_foldl_RouteDel {cs : List Route} (hk : (rs.map Route.key).Nodup)
    (hcs : ∀ c ∈ cs, c ∈ rs) (hck : (cs.map Route.key).Nodup) (x : Route) :
    x ∈ (cs.map .RouteDel).foldl RouteCall.apply rs ↔ x ∈ rs ∧ x ∉ cs := by
  induction cs generalizing rs with
  | nil => simp
  | cons c cs ih =>
    have hck' := List.nodup_cons.1 (List.map_cons _ _ _ ▸ hck)
    have hnd : rs.Nodup := hk.of_map _
    have hsub : ∀ c' ∈ cs, c' ∈ rs.erase c := fun c' hc' =>
      (hnd.mem_erase_iff).2 ⟨fun he => hck'.1 (he ▸ List.mem_map_of_mem _ hc'), hcs c' (.tail _ hc')⟩
    rw [List.map_cons, List.foldl_cons, apply_RouteDel_mem hk (hcs c (.head _)),
      ih (hk.sublist ((List.erase_sublist _ _).map _)) hsub hck'.2, hnd.mem_erase_iff,
      List.mem_cons, not_or]
    tauto

/-- Adds never remove a route. -/
theorem mem_foldl_RouteAdd {cs : List Route} {x : Route} (hx : x ∈ rs) :
    x ∈ (cs.map .RouteAdd).foldl RouteCall.apply rs := by
  induction cs generalizing rs with
  | nil => exact hx
  | cons c cs ih =>
    refine ih ?_
    simp only [RouteCall.apply]
    split_ifs
    · exact List.mem_append_left _ hx
    · exact hx

/-- Adds into one table leave the kernel's routes in place and add routes of that table
only. -/
theorem foldl_RouteAdd_table {cs : List Route} {table : Int} (hc : ∀ c ∈ cs, c.Table = table) :
    ∃ added, (cs.map .RouteAdd).foldl RouteCall.apply rs = rs ++ added ∧
      ∀ a ∈ added, a.Table = table := by
  induction cs generalizing rs with
  | nil => exact ⟨[], by simp⟩
  | cons c cs ih =>
    obtain ⟨added, heq, ht⟩ := @ih (RouteCall.apply rs (.RouteAdd c))
      fun c' hc' => hc c' (.tail _ hc')
    rw [List.map_cons, List.foldl_cons, heq]
    simp only [RouteCall.apply]
    split_ifs
    · exact ⟨c :: added, by simp, by simpa [hc c (.head _)] using ht⟩
    · exact ⟨added, rfl, ht⟩

/-- A delete of a route whose identity is not the head's leaves the head in place. -/
theorem foldl_RouteDel_cons {cs : List Route} {a : Route} (ha : ∀ c ∈ cs, c.key ≠ a.key) :
    (cs.map .RouteDel).foldl RouteCall.apply (a :: rs) =
      a :: (cs.map .RouteDel).foldl RouteCall.apply rs := by
  induction cs generalizing rs with
  | nil => rfl
  | cons c cs ih =>
    have : RouteCall.apply (a :: rs) (.RouteDel c) = a :: RouteCall.apply rs (.RouteDel c) := by
      simp [RouteCall.apply, Ne.symm (ha c (.head _))]
    rw [List.map_cons, List.foldl_cons, List.foldl_cons, this, ih fun c' hc' => ha c' (.tail _ hc')]

/-- Deleting the routes a filter lists, in their order, leaves the others. -/
theorem foldl_RouteDel_filter (p : Route → Bool) (hk : (rs.map Route.key).Nodup) :
    ((rs.filter p).map .RouteDel).foldl RouteCall.apply rs = rs.filter fun x => !p x := by
  induction rs with
  | nil => rfl
  | cons a rs ih =>
    have hk' := List.nodup_cons.1 (List.map_cons _ _ _ ▸ hk)
    by_cases hp : p a
    · rw [List.filter_cons_of_pos hp, List.map_cons, List.foldl_cons,
        List.filter_cons_of_neg (by simpa using hp), ← ih hk'.2]
      simp [RouteCall.apply]
    · rw [List.filter_cons_of_neg hp, List.filter_cons_of_pos (by simpa using hp),
        foldl_RouteDel_cons fun c hc he => hk'.1 (he ▸ List.mem_map_of_mem _
          (List.mem_of_mem_filter hc)), ih hk'.2]

end Calls

/-! ## zedrouter beside the kernel -/

/-- No two copies of main-table routes share an identity. -/
def CopiesDistinct (free : Int → Bool) (rs : List Route) : Prop :=
  (((mainRoutes rs).flatMap (pbrCopies free)).map Route.key).Nodup

/-- What a run keeps: identities unique, every main-table route of index 0 or more, no two
copies sharing an identity, and zedrouter's tables holding exactly the copies. -/
structure PbrInv (free : Int → Bool) (rs : List Route) : Prop where
  keys : (rs.map Route.key).Nodup
  links : ∀ r ∈ mainRoutes rs, 0 ≤ r.LinkIndex
  distinct : CopiesDistinct free rs
  mirror : ∀ x, x ∈ rs ∧ x.Table ≠ getDefaultRouteTable ↔
    x ∈ (mainRoutes rs).flatMap (pbrCopies free)

section World

variable (IfindexToName : Int → Except String (String × String)) (dns : DeviceNetworkStatus)

/-- The kernel's routes after a change of the main table and `PbrRouteChange` on its
event. -/
def pbrStep (rs : List Route) (c : MainChange) : List Route :=
  (PbrRouteChange IfindexToName dns c.update).foldl RouteCall.apply (c.apply rs)

/-- The kernel replaces a main-table route in place (`NLM_F_REPLACE`): a route of the same
identity takes the old one's place, and the event reports it as a new route. -/
def pbrReplaceStep (rs : List Route) (old new : Route) : List Route :=
  (PbrRouteChange IfindexToName dns ⟨getRouteUpdateTypeNEWROUTE, new⟩).foldl RouteCall.apply
    (rs.erase old ++ [new])

/-- The kernel's routes along a run from an empty kernel, in which no two copies ever
share an identity. -/
inductive PbrReachable : List Route → Prop
  | init : PbrReachable []
  | step {rs : List Route} {c : MainChange} : PbrReachable rs → c.CanApply rs →
      CopiesDistinct (doFreeTable IfindexToName dns) (c.apply rs) →
      PbrReachable (pbrStep IfindexToName dns rs c)

end World

namespace PbrInv

variable {IfindexToName : Int → Except String (String × String)} {dns : DeviceNetworkStatus}
  {rs : List Route}

theorem init (free : Int → Bool) : PbrInv free [] :=
  ⟨List.nodup_nil, (fun _ h => nomatch h), List.nodup_nil, fun _ => by simp [mainRoutes]⟩

/-- The copies of a main-table route have distinct identities, and none of another
main-table route's. -/
theorem copies_disjoint {free : Int → Bool} (hd : CopiesDistinct free rs) :
    (∀ r ∈ mainRoutes rs, ((pbrCopies free r).map Route.key).Nodup) ∧
      ∀ r ∈ mainRoutes rs, ∀ r' ∈ mainRoutes rs, r ≠ r' →
        ∀ x ∈ pbrCopies free r, ∀ y ∈ pbrCopies free r', x.key ≠ y.key := by
  unfold CopiesDistinct at hd
  rw [List.map_flatMap, List.nodup_flatMap] at hd
  have hsymm : Symmetric (List.Disjoint on fun r => (pbrCopies free r).map Route.key) :=
    fun _ _ h _ ha hb => h hb ha
  refine ⟨hd.1, fun r hr r' hr' hne x hx y hy he => ?_⟩
  exact hd.2.forall hsymm hr hr' hne (List.mem_map_of_mem _ hx)
    (he ▸ List.mem_map_of_mem _ hy)

/-- The copies of a main-table route are in the kernel, apart from the route itself. -/
theorem copies_mem_erase {free : Int → Bool} (hi : PbrInv free rs) {rt : Route}
    (hrt : rt ∈ mainRoutes rs) : ∀ c ∈ pbrCopies free rt, c ∈ rs.erase rt := fun c hc =>
  (List.mem_erase_of_ne fun he => pbrCopies_Table (hi.links rt hrt) hc
    (by rw [he]; exact (mem_mainRoutes.1 hrt).2)).2
    ((hi.mirror c).2 (List.mem_flatMap.2 ⟨rt, hrt, hc⟩)).1

/-- The handler's calls for a change leave the main table as the change made it. -/
theorem mainRoutes_pbrStep (hi : PbrInv (doFreeTable IfindexToName dns) rs) {c : MainChange}
    (hc : c.CanApply rs) :
    mainRoutes (pbrStep IfindexToName dns rs c) = mainRoutes (c.apply rs) := by
  apply mainRoutes_foldl
  cases c with
  | add rt =>
    rw [MainChange.update, PbrRouteChange_new hc.1]
    simp only [List.mem_map]
    rintro _ ⟨x, hx, rfl⟩
    exact pbrCopies_Table hc.2.1 hx
  | del rt =>
    rw [MainChange.update, PbrRouteChange_del (mem_mainRoutes.1 hc).2]
    simp only [List.mem_map]
    rintro _ ⟨x, hx, rfl⟩
    exact pbrCopies_Table (hi.links rt hc) hx

/-- A new route's copies are all added. -/
theorem pbrStep_add (hi : PbrInv (doFreeTable IfindexToName dns) rs) {rt : Route}
    (hc : (MainChange.add rt).CanApply rs)
    (hd : CopiesDistinct (doFreeTable IfindexToName dns) (rs ++ [rt])) :
    pbrStep IfindexToName dns rs (.add rt) =
      rs ++ [rt] ++ pbrCopies (doFreeTable IfindexToName dns) rt := by
  obtain ⟨hmain, hl, hfresh⟩ := hc
  rw [CopiesDistinct, mainRoutes_append_main hmain, List.flatMap_append, List.map_append,
    List.nodup_append] at hd
  simp only [List.flatMap_cons, List.flatMap_nil, List.append_nil] at hd
  show (PbrRouteChange IfindexToName dns ⟨getRouteUpdateTypeNEWROUTE, rt⟩).foldl _ _ = _
  rw [PbrRouteChange_new hmain]
  refine foldl_RouteAdd_fresh (fun c hc => pbrCopies_Flags hc) ?_
  rw [List.map_append, List.nodup_append]
  refine ⟨keys_nodup_append hi.keys hfresh, hd.2.1, fun k hk hk' => ?_⟩
  obtain ⟨x, hx, rfl⟩ := List.mem_map.1 hk
  obtain ⟨c, hc, hkc⟩ := List.mem_map.1 hk'
  by_cases hxt : x.Table = getDefaultRouteTable
  · exact pbrCopies_Table hl hc (Route.Table_eq_of_key hkc ▸ hxt)
  · have hxr : x ∈ rs := (List.mem_append.1 hx).resolve_right fun h => hxt
      (List.mem_singleton.1 h ▸ hmain)
    exact hd.2.2 (List.mem_map_of_mem _ ((hi.mirror x).1 ⟨hxr, hxt⟩)) (hkc ▸ List.mem_map_of_mem _ hc)

/-- After a new route, zedrouter's tables hold the copies of the new main table. -/
theorem mirror_add (hi : PbrInv (doFreeTable IfindexToName dns) rs) {rt : Route}
    (hc : (MainChange.add rt).CanApply rs)
    (hd : CopiesDistinct (doFreeTable IfindexToName dns) (rs ++ [rt])) (x : Route) :
    x ∈ pbrStep IfindexToName dns rs (.add rt) ∧ x.Table ≠ getDefaultRouteTable ↔
      x ∈ (mainRoutes (pbrStep IfindexToName dns rs (.add rt))).flatMap
        (pbrCopies (doFreeTable IfindexToName dns)) := by
  rw [hi.mainRoutes_pbrStep hc, pbrStep_add hi hc hd]
  show _ ↔ x ∈ (mainRoutes (rs ++ [rt])).flatMap _
  rw [mainRoutes_append_main hc.1, List.flatMap_append]
  simp only [List.flatMap_cons, List.flatMap_nil, List.append_nil, List.mem_append,
    List.mem_singleton]
  constructor
  · rintro ⟨(hx | rfl) | hx, ht⟩
    · exact .inl ((hi.mirror x).1 ⟨hx, ht⟩)
    · exact absurd hc.1 ht
    · exact .inr hx
  · rintro (hx | hx)
    · exact ⟨.inl (.inl ((hi.mirror x).2 hx).1), ((hi.mirror x).2 hx).2⟩
    · exact ⟨.inr hx, pbrCopies_Table hc.2.1 hx⟩

/-- After a route goes, zedrouter's tables hold the copies of the new main table. -/
theorem mirror_del (hi : PbrInv (doFreeTable IfindexToName dns) rs) {rt : Route}
    (hc : (MainChange.del rt).CanApply rs) (x : Route) :
    x ∈ pbrStep IfindexToName dns rs (.del rt) ∧ x.Table ≠ getDefaultRouteTable ↔
      x ∈ (mainRoutes (pbrStep IfindexToName dns rs (.del rt))).flatMap
        (pbrCopies (doFreeTable IfindexToName dns)) := by
  have hnd : rs.Nodup := hi.keys.of_map _
  have hrt := mem_mainRoutes.1 hc
  have hdis := copies_disjoint hi.distinct
  rw [hi.mainRoutes_pbrStep hc]
  show x ∈ (PbrRouteChange IfindexToName dns ⟨getRouteUpdateTypeDELROUTE, rt⟩).foldl
    RouteCall.apply (rs.erase rt) ∧ _ ↔
    x ∈ (mainRoutes (rs.erase rt)).flatMap _
  rw [PbrRouteChange_del hrt.2, mem_foldl_RouteDel (hi.keys.sublist ((List.erase_sublist _ _).map _))
    (hi.copies_mem_erase hc) (hdis.1 rt hc), hnd.mem_erase_iff, List.mem_flatMap]
  simp only [mem_mainRoutes, hnd.mem_erase_iff]
  constructor
  · rintro ⟨⟨⟨-, hx⟩, hxc⟩, ht⟩
    obtain ⟨r, hr, hxr⟩ := List.mem_flatMap.1 ((hi.mirror x).1 ⟨hx, ht⟩)
    exact ⟨r, ⟨⟨fun he => hxc (he ▸ hxr), (mem_mainRoutes.1 hr).1⟩, (mem_mainRoutes.1 hr).2⟩, hxr⟩
  · rintro ⟨r, ⟨⟨hne, hr⟩, hrm⟩, hxr⟩
    have hr' : r ∈ mainRoutes rs := mem_mainRoutes.2 ⟨hr, hrm⟩
    obtain ⟨hx, ht⟩ := (hi.mirror x).2 (List.mem_flatMap.2 ⟨r, hr', hxr⟩)
    exact ⟨⟨⟨fun he => ht (he ▸ hrt.2), hx⟩,
      fun hxc => hdis.2 r hr' rt hc hne x hxr x hxc rfl⟩, ht⟩

/-- Every change of the main table and its event keep the invariant, as long as no two
copies share an identity after the change. -/
theorem step (hi : PbrInv (doFreeTable IfindexToName dns) rs) {c : MainChange}
    (hc : c.CanApply rs) (hd : CopiesDistinct (doFreeTable IfindexToName dns) (c.apply rs)) :
    PbrInv (doFreeTable IfindexToName dns) (pbrStep IfindexToName dns rs c) where
  keys := keys_nodup_foldl (by
    cases c with
    | add rt => exact keys_nodup_append hi.keys hc.2.2
    | del rt => exact hi.keys.sublist ((List.erase_sublist _ _).map _)) _
  links r hr := by
    rw [hi.mainRoutes_pbrStep hc] at hr
    cases c with
    | add rt =>
      rw [MainChange.apply, mainRoutes_append_main hc.1, List.mem_append, List.mem_singleton] at hr
      rcases hr with hr | rfl
      exacts [hi.links r hr, hc.2.1]
    | del rt =>
      exact hi.links r (mem_mainRoutes.2 ⟨List.mem_of_mem_erase (mem_mainRoutes.1 hr).1,
        (mem_mainRoutes.1 hr).2⟩)
  distinct := by
    unfold CopiesDistinct
    rw [hi.mainRoutes_pbrStep hc]
    exact hd
  mirror x := by
    cases c with
    | add rt => exact mirror_add hi hc hd x
    | del rt => exact mirror_del hi hc x

end PbrInv

/-- Every run keeps the invariant. -/
theorem PbrReachable.inv {IfindexToName : Int → Except String (String × String)}
    {dns : DeviceNetworkStatus} {rs : List Route} (h : PbrReachable IfindexToName dns rs) :
    PbrInv (doFreeTable IfindexToName dns) rs := by
  induction h with
  | init => exact PbrInv.init _
  | step _ hc hd ih => exact ih.step hc hd

/-! ## A free port's default route -/

/-- `eth0`, a free management port. -/
def freeEth0Status : DeviceNetworkStatus :=
  { Ports := [{ IfName := "eth0", IsMgmt := true, Free := true }] }

/-- The link cache with `eth0` at ifindex 2. -/
def eth0Name (index : Int) : Except String (String × String) :=
  if index = 2 then .ok ("eth0", "device") else .error ("Unknown ifindex " ++ toString index)

/-- An IPv4 default route of `eth0` through `192.168.1.gw`. -/
def eth0Default (gw : UInt8) : Route :=
  { LinkIndex := 2, Gw := ⟨[192, 168, 1, gw]⟩, Family := 2, Priority := 202, Table := 254 }

/-- The kernel after `eth0`'s default route through `.1` appeared. -/
def eth0DefaultRoutes : List Route := pbrStep eth0Name freeEth0Status [] (.add (eth0Default 1))

theorem eth0DefaultRoutes_reachable : PbrReachable eth0Name freeEth0Status eth0DefaultRoutes :=
  .step .init ⟨rfl, by decide, fun _ h => nomatch h⟩ (by unfold CopiesDistinct; decide)

/-- Over every run from an empty kernel in which no two copies share an identity, the
tables zedrouter owns hold exactly the copies of the main table's routes: each route in
its link's table `FreeTable + LinkIndex`, and the route of a free management port in
`FreeTable` as well, a link-local destination there under its link's index as priority. -/
theorem pbr_tables_mirror_main {IfindexToName : Int → Except String (String × String)}
    {dns : DeviceNetworkStatus} {rs : List Route} (h : PbrReachable IfindexToName dns rs)
    (x : Route) :
    x ∈ rs ∧ x.Table ≠ getDefaultRouteTable ↔
      ∃ r ∈ rs, r.Table = getDefaultRouteTable ∧
        (x = tableRoute (FreeTable + r.LinkIndex) false r ∨
          doFreeTable IfindexToName dns r.LinkIndex = true ∧ x = tableRoute FreeTable true r) := by
  rw [h.inv.mirror x, List.mem_flatMap]
  simp only [mem_mainRoutes, mem_pbrCopies, and_assoc]

/-- The default route of free port `eth0` is copied to `FreeTable`. -/
theorem pbr_tables_mirror_main_eth0 :
    PbrReachable eth0Name freeEth0Status eth0DefaultRoutes ∧
      tableRoute FreeTable true (eth0Default 1) ∈ eth0DefaultRoutes :=
  ⟨eth0DefaultRoutes_reachable, ((pbr_tables_mirror_main eth0DefaultRoutes_reachable _).2
    ⟨eth0Default 1, by decide, rfl, .inr ⟨by decide, rfl⟩⟩).1⟩

/-! ## When copies keep apart -/

/-- No two copies share an identity when every main-table route has a link and no link has
two link-local routes of one family to one destination: a link's table takes its routes
with their identities, and the link-local hack gives the `FreeTable` copies of different
links different priorities. -/
theorem copiesDistinct_of_links (free : Int → Bool) {rs : List Route}
    (hk : (rs.map Route.key).Nodup) (hl : ∀ r ∈ mainRoutes rs, 0 < r.LinkIndex)
    (hll : ∀ r ∈ mainRoutes rs, ∀ r' ∈ mainRoutes rs, r.Dst.any (·.IP.IsLinkLocalUnicast) →
      r.LinkIndex = r'.LinkIndex → r.Family = r'.Family → r.Dst = r'.Dst → r = r') :
    CopiesDistinct free rs := by
  have hmk : ((mainRoutes rs).map Route.key).Nodup := hk.sublist ((List.filter_sublist _).map _)
  unfold CopiesDistinct
  rw [List.map_flatMap, List.nodup_flatMap]
  refine ⟨fun r hr => ?_, (hmk.of_map _).pairwise_of_forall_ne fun r hr r' hr' hne k hk hk' => ?_⟩
  · have := hl r hr
    unfold pbrCopies
    split
    · simp [Route.key, FreeTable]
      omega
    · simp
  · obtain ⟨x, hx, rfl⟩ := List.mem_map.1 hk
    obtain ⟨y, hy, hxy⟩ := List.mem_map.1 hk'
    have h1 := hl r hr
    have h2 := hl r' hr'
    have hT := (mem_mainRoutes.1 hr).2.trans (mem_mainRoutes.1 hr').2.symm
    have hinj : r.Family = r'.Family → r.Dst = r'.Dst → r.Priority = r'.Priority → False :=
      fun hF hD hP => hne (List.inj_on_of_nodup_map hmk hr hr' (Route.key_eq_iff.2 ⟨hF, hT, hD, hP⟩))
    rcases mem_pbrCopies.1 hx with rfl | ⟨-, rfl⟩ <;> rcases mem_pbrCopies.1 hy with rfl | ⟨-, rfl⟩ <;>
      obtain ⟨hF, hTab, hD, hP⟩ := Route.key_eq_iff.1 hxy <;>
      simp only [tableRoute_Family, tableRoute_Table, tableRoute_Dst, tableRoute_Priority,
        Bool.false_and, Bool.true_and, Bool.false_eq_true, if_false, FreeTable] at hF hTab hD hP
    · exact hinj hF.symm hD.symm hP.symm
    · omega
    · omega
    · rw [hD] at hP
      split at hP
      · exact hne (hll r hr r' hr' ‹_› hP.symm hF.symm hD.symm)
      · exact hinj hF.symm hD.symm hP.symm

/-- `eth0`'s default route and its copies meet the condition. -/
theorem copiesDistinct_of_links_eth0 :
    (eth0DefaultRoutes.map Route.key).Nodup ∧
      (∀ r ∈ mainRoutes eth0DefaultRoutes, 0 < r.LinkIndex) ∧
      (∀ r ∈ mainRoutes eth0DefaultRoutes, ∀ r' ∈ mainRoutes eth0DefaultRoutes,
        r.Dst.any (·.IP.IsLinkLocalUnicast) → r.LinkIndex = r'.LinkIndex →
        r.Family = r'.Family → r.Dst = r'.Dst → r = r') ∧
      CopiesDistinct (doFreeTable eth0Name freeEth0Status) eth0DefaultRoutes :=
  have hk : (eth0DefaultRoutes.map Route.key).Nodup := by decide
  have hl : ∀ r ∈ mainRoutes eth0DefaultRoutes, 0 < r.LinkIndex := by decide
  have hll : ∀ r ∈ mainRoutes eth0DefaultRoutes, ∀ r' ∈ mainRoutes eth0DefaultRoutes,
      r.Dst.any (·.IP.IsLinkLocalUnicast) → r.LinkIndex = r'.LinkIndex →
      r.Family = r'.Family → r.Dst = r'.Dst → r = r' := by decide
  ⟨hk, hl, hll, copiesDistinct_of_links _ hk hl hll⟩

/-! ## A route replaced in place -/

/-- When the kernel replaces a main-table route, its link's table keeps the copy of the old
route; and when the new route is on the same link, none of its copies is added: each
`RouteAdd` meets the identity of a copy of the old route, and zedrouter's tables stay as
they were. -/
theorem PbrRouteChange_misses_replaced_route
    {IfindexToName : Int → Except String (String × String)} {dns : DeviceNetworkStatus}
    {rs : List Route} (h : PbrReachable IfindexToName dns rs) {old new : Route}
    (hold : old ∈ mainRoutes rs) (hkey : new.key = old.key) :
    tableRoute (FreeTable + old.LinkIndex) false old ∈ pbrReplaceStep IfindexToName dns rs old new ∧
      (new.LinkIndex = old.LinkIndex →
        pbrReplaceStep IfindexToName dns rs old new = rs.erase old ++ [new]) := by
  have hi := h.inv
  have hcopy := hi.copies_mem_erase hold
  obtain ⟨hF, hT, hD, hP⟩ := Route.key_eq_iff.1 hkey
  unfold pbrReplaceStep
  rw [PbrRouteChange_new (hT.trans (mem_mainRoutes.1 hold).2)]
  refine ⟨mem_foldl_RouteAdd (List.mem_append_left _ (hcopy _ (mem_pbrCopies.2 (.inl rfl)))),
    fun hlink => foldl_RouteAdd_taken fun c hc => ?_⟩
  rcases mem_pbrCopies.1 hc with rfl | ⟨hf, rfl⟩
  · refine ⟨_, List.mem_append_left _ (hcopy _ (mem_pbrCopies.2 (.inl rfl))), ?_⟩
    simp [Route.key_eq_iff, tableRoute_Priority, hF, hD, hP, hlink]
  · refine ⟨_, List.mem_append_left _ (hcopy _ (mem_pbrCopies.2 (.inr ⟨hlink ▸ hf, rfl⟩))), ?_⟩
    simp [Route.key_eq_iff, tableRoute_Priority, hF, hD, hP, hlink]

/-- The router of `eth0`'s default route changes from `.1` to `.2` in place: `eth0`'s
table keeps the route through `.1`, and nothing is copied. -/
theorem PbrRouteChange_misses_replaced_route_eth0 :
    tableRoute (FreeTable + 2) false (eth0Default 1) ∈
        pbrReplaceStep eth0Name freeEth0Status eth0DefaultRoutes (eth0Default 1) (eth0Default 2) ∧
      pbrReplaceStep eth0Name freeEth0Status eth0DefaultRoutes (eth0Default 1) (eth0Default 2) =
        eth0DefaultRoutes.erase (eth0Default 1) ++ [eth0Default 2] :=
  have h := PbrRouteChange_misses_replaced_route eth0DefaultRoutes_reachable (by decide)
    (show (eth0Default 2).key = (eth0Default 1).key from rfl)
  ⟨h.1, h.2 rfl⟩

/-! ## The start: `PbrInit` and the routes `ListExisting` reports -/

/-- The calls of `moveRoutesTable` (its one copy in the source is in `part_001`) on the
kernel's routes as `RouteListFiltered` lists them: every route of `srcTable` (the main
table for 0) and of link `ifindex` (any link for 0) is copied to `dstTable`, with the
link-local hack. -/
def moveRoutesTable (rs : List Route) (srcTable ifindex dstTable : Int) : List RouteCall :=
  let srcTable := if srcTable = 0 then getDefaultRouteTable else srcTable
  ((rs.filter fun rt => rt.Table = srcTable ∧ (ifindex = 0 ∨ rt.LinkIndex = ifindex)).map
    (tableRoute dstTable true)).map .RouteAdd

/-- The calls of `flushRoutesTable`: every route of `table` and of link `ifindex` (any
link for 0) is deleted. -/
def flushRoutesTable (rs : List Route) (table ifindex : Int) : List RouteCall :=
  (rs.filter fun rt => rt.Table = table ∧ (ifindex = 0 ∨ rt.LinkIndex = ifindex)).map .RouteDel

/-- `moveRoutesTable` only adds, and only to `dstTable`. -/
theorem moveRoutesTable_apply (rs : List Route) (srcTable ifindex dstTable : Int) :
    ∃ moved, (moveRoutesTable rs srcTable ifindex dstTable).foldl RouteCall.apply rs =
      rs ++ moved ∧ ∀ a ∈ moved, a.Table = dstTable := by
  refine foldl_RouteAdd_table fun c hc => ?_
  obtain ⟨x, -, rfl⟩ := List.mem_map.1 hc
  rfl

/-- `flushRoutesTable` removes exactly the routes it lists. -/
theorem flushRoutesTable_apply {rs : List Route} (hk : (rs.map Route.key).Nodup)
    (table ifindex : Int) :
    (flushRoutesTable rs table ifindex).foldl RouteCall.apply rs =
      rs.filter fun rt => !decide (rt.Table = table ∧ (ifindex = 0 ∨ rt.LinkIndex = ifindex)) :=
  foldl_RouteDel_filter _ hk

section Start

variable (IfnameToIndex : String → Except String Int)

/-- `setFreeMgmtPorts` on the kernel's routes: a port new to the list has its routes moved
to `FreeTable`, a port gone from it has them flushed from there; each call lists the
routes as they are when it runs. -/
def setFreeMgmtPorts (freeMgmtPortList freeMgmtPorts : List String) (rs : List Route) :
    List Route :=
  let rs := freeMgmtPorts.foldl (fun rs u =>
    if u ∉ freeMgmtPortList then
      match IfnameToIndex u with
      | .ok ifindex => (moveRoutesTable rs 0 ifindex FreeTable).foldl RouteCall.apply rs
      | .error _ => rs
    else rs) rs
  freeMgmtPortList.foldl (fun rs old =>
    if old ∉ freeMgmtPorts then
      match IfnameToIndex old with
      | .ok ifindex => (flushRoutesTable rs FreeTable ifindex).foldl RouteCall.apply rs
      | .error _ => rs
    else rs) rs

/-- The route work of `PbrInit`: `setFreeMgmtPorts` with the free management ports of the
status, from an empty list, then `flushRoutesTable(FreeTable, 0)`. -/
def PbrInitRoutes (dns : DeviceNetworkStatus) (rs : List Route) : List Route :=
  let rs := setFreeMgmtPorts IfnameToIndex [] (GetMgmtPortsFree dns) rs
  (flushRoutesTable rs FreeTable 0).foldl RouteCall.apply rs

/-- From an empty list, `setFreeMgmtPorts` only adds routes to `FreeTable`. -/
theorem setFreeMgmtPorts_nil (ports : List String) {rs : List Route}
    (hk : (rs.map Route.key).Nodup) :
    ∃ added, setFreeMgmtPorts IfnameToIndex [] ports rs = rs ++ added ∧
      (∀ a ∈ added, a.Table = FreeTable) ∧ ((rs ++ added).map Route.key).Nodup := by
  simp only [setFreeMgmtPorts, List.not_mem_nil, not_false_eq_true, if_true, List.foldl_nil]
  induction ports generalizing rs with
  | nil => exact ⟨[], by simpa using hk⟩
  | cons u ports ih =>
    rw [List.foldl_cons]
    split
    · rename_i ifindex _
      obtain ⟨moved, hm, hmt⟩ := moveRoutesTable_apply rs 0 ifindex FreeTable
      have hk' := keys_nodup_foldl hk (moveRoutesTable rs 0 ifindex FreeTable)
      rw [hm] at hk' ⊢
      obtain ⟨added, ha, hat, hka⟩ := ih hk'
      refine ⟨moved ++ added, by rw [ha, List.append_assoc], fun a h => ?_, by simpa using hka⟩
      exact (List.mem_append.1 h).elim (hmt a) (hat a)
    · exact ih hk

/-- `PbrInit` leaves the kernel's routes of every table but `FreeTable` as they were, and
none in `FreeTable`: the routes its `setFreeMgmtPorts` moves there are flushed at once. -/
theorem PbrInitRoutes_eq (dns : DeviceNetworkStatus) {rs : List Route}
    (hk : (rs.map Route.key).Nodup) :
    PbrInitRoutes IfnameToIndex dns rs = rs.filter (·.Table ≠ FreeTable) := by
  obtain ⟨added, ha, hat, hka⟩ := setFreeMgmtPorts_nil IfnameToIndex (GetMgmtPortsFree dns) hk
  simp only [PbrInitRoutes, ha, flushRoutesTable_apply hka, List.filter_append]
  rw [List.filter_eq_nil_iff.2 fun a (h : a ∈ added) => by simp [hat a h], List.append_nil]
  exact List.filter_congr fun a _ => by simp

end Start

/-! ## The routes `ListExisting` reports -/

section Mirror

variable {free : Int → Bool} {M : List Route}

/-- A main table with its copies, and nothing else, has that main table. -/
theorem mainRoutes_mirror (hm : ∀ r ∈ M, r.Table = getDefaultRouteTable)
    (hl : ∀ r ∈ M, 0 ≤ r.LinkIndex) : mainRoutes (M ++ M.flatMap (pbrCopies free)) = M := by
  rw [mainRoutes, List.filter_append, List.filter_eq_self.2 fun r hr => by simp [hm r hr],
    List.filter_eq_nil_iff.2 fun x hx => ?_, List.append_nil]
  obtain ⟨r, hr, hx⟩ := List.mem_flatMap.1 hx
  simpa using pbrCopies_Table (hl r hr) hx

theorem keys_nodup_mirror (hm : ∀ r ∈ M, r.Table = getDefaultRouteTable)
    (hl : ∀ r ∈ M, 0 ≤ r.LinkIndex) (hk : (M.map Route.key).Nodup)
    (hd : ((M.flatMap (pbrCopies free)).map Route.key).Nodup) :
    ((M ++ M.flatMap (pbrCopies free)).map Route.key).Nodup := by
  rw [List.map_append, List.nodup_append]
  refine ⟨hk, hd, fun k hk₁ hk₂ => ?_⟩
  obtain ⟨r, hr, rfl⟩ := List.mem_map.1 hk₁
  obtain ⟨x, hx, he⟩ := List.mem_map.1 hk₂
  obtain ⟨r', hr', hx⟩ := List.mem_flatMap.1 hx
  exact pbrCopies_Table (hl r' hr') hx ((Route.Table_eq_of_key he).trans (hm r hr))

/-- A main table with its copies, and nothing else, meets the invariant. -/
theorem PbrInv.of_mirror (hm : ∀ r ∈ M, r.Table = getDefaultRouteTable)
    (hl : ∀ r ∈ M, 0 ≤ r.LinkIndex) (hk : (M.map Route.key).Nodup)
    (hd : ((M.flatMap (pbrCopies free)).map Route.key).Nodup) :
    PbrInv free (M ++ M.flatMap (pbrCopies free)) where
  keys := keys_nodup_mirror hm hl hk hd
  links := by
    rw [mainRoutes_mirror hm hl]
    exact hl
  distinct := by
    unfold CopiesDistinct
    rwa [mainRoutes_mirror hm hl]
  mirror x := by
    rw [mainRoutes_mirror hm hl, List.mem_append]
    constructor
    · rintro ⟨hx | hx, hT⟩
      exacts [absurd (hm x hx) hT, hx]
    · intro hx
      obtain ⟨r, hr, hxr⟩ := List.mem_flatMap.1 hx
      exact ⟨.inr hx, pbrCopies_Table (hl r hr) hxr⟩

end Mirror

/-- The events of `RouteSubscribeWithOptions` with `ListExisting`: the kernel reports each
route it holds as new, in its order, and `PbrRouteChange` makes its calls on each. -/
def pbrReplay (IfindexToName : Int → Except String (String × String))
    (dns : DeviceNetworkStatus) (rs : List Route) : List Route :=
  (rs.flatMap fun rt => PbrRouteChange IfindexToName dns ⟨getRouteUpdateTypeNEWROUTE, rt⟩).foldl
    RouteCall.apply rs

/-- On a kernel with main-table routes only, the replay adds the copies of each. -/
theorem pbrReplay_eq {IfindexToName : Int → Except String (String × String)}
    {dns : DeviceNetworkStatus} {M : List Route} (hm : ∀ r ∈ M, r.Table = getDefaultRouteTable)
    (hl : ∀ r ∈ M, 0 ≤ r.LinkIndex) (hk : (M.map Route.key).Nodup)
    (hd : ((M.flatMap (pbrCopies (doFreeTable IfindexToName dns))).map Route.key).Nodup) :
    pbrReplay IfindexToName dns M = M ++ M.flatMap (pbrCopies (doFreeTable IfindexToName dns)) := by
  have hcalls : (M.flatMap fun rt => PbrRouteChange IfindexToName dns ⟨getRouteUpdateTypeNEWROUTE, rt⟩) =
      (M.flatMap (pbrCopies (doFreeTable IfindexToName dns))).map .RouteAdd := by
    rw [List.map_flatMap]
    exact List.flatMap_congr fun r hr => PbrRouteChange_new (hm r hr)
  rw [pbrReplay, hcalls, foldl_RouteAdd_fresh (fun c hc => ?_)
    (keys_nodup_mirror hm hl hk hd)]
  obtain ⟨r, -, hc⟩ := List.mem_flatMap.1 hc
  exact pbrCopies_Flags hc

/-- From any kernel whose routes are in the main table or in `FreeTable`, with unique
identities, links of index 0 or more and copies of distinct identities, `PbrInit` and the
replay of the routes it subscribes to leave zedrouter's tables holding exactly the copies
of the main table's routes, whatever `IfnameToIndex` answers. A route a former run left in a
link's table `FreeTable + ifindex` is not flushed: `PbrInitRoutes_eq`. -/
theorem pbr_boot_mirrors (IfindexToName : Int → Except String (String × String))
    (IfnameToIndex : String → Except String Int) (dns : DeviceNetworkStatus) {K : List Route}
    (hk : (K.map Route.key).Nodup)
    (htab : ∀ r ∈ K, r.Table = getDefaultRouteTable ∨ r.Table = FreeTable)
    (hl : ∀ r ∈ mainRoutes K, 0 ≤ r.LinkIndex)
    (hd : CopiesDistinct (doFreeTable IfindexToName dns) K) :
    PbrInv (doFreeTable IfindexToName dns)
      (pbrReplay IfindexToName dns (PbrInitRoutes IfnameToIndex dns K)) := by
  have hM : PbrInitRoutes IfnameToIndex dns K = mainRoutes K :=
    (PbrInitRoutes_eq IfnameToIndex dns hk).trans (List.filter_congr fun r hr => by
      rcases htab r hr with h | h <;> simp [h, FreeTable, getDefaultRouteTable])
  have hm : ∀ r ∈ mainRoutes K, r.Table = getDefaultRouteTable := fun r hr => (mem_mainRoutes.1 hr).2
  have hkM : ((mainRoutes K).map Route.key).Nodup := hk.sublist ((List.filter_sublist K).map _)
  rw [hM, pbrReplay_eq hm hl hkM hd]
  exact PbrInv.of_mirror hm hl hkM hd

/-- `eth0`'s default route, with the copy in `FreeTable` a former run left. -/
def eth0BootRoutes : List Route := [eth0Default 1, tableRoute FreeTable true (eth0Default 1)]

/-- `IfnameToIndex` on a kernel with `eth0` at ifindex 2. -/
def eth0Index (ifname : String) : Except String Int :=
  if ifname = "eth0" then .ok 2 else .error ("Unknown ifname " ++ ifname)

/-- A start with a stale `FreeTable` copy: it is flushed, and the replay puts it back. -/
theorem pbr_boot_mirrors_eth0 :
    (eth0BootRoutes.map Route.key).Nodup ∧
      (∀ r ∈ eth0BootRoutes, r.Table = getDefaultRouteTable ∨ r.Table = FreeTable) ∧
      (∀ r ∈ mainRoutes eth0BootRoutes, 0 ≤ r.LinkIndex) ∧
      CopiesDistinct (doFreeTable eth0Name freeEth0Status) eth0BootRoutes ∧
      PbrInv (doFreeTable eth0Name freeEth0Status)
        (pbrReplay eth0Name freeEth0Status (PbrInitRoutes eth0Index freeEth0Status eth0BootRoutes)) :=
  ⟨by decide, by decide, by decide, by unfold CopiesDistinct; decide,
    pbr_boot_mirrors eth0Name eth0Index freeEth0Status (by decide) (by decide) (by decide)
      (by unfold CopiesDistinct; decide)⟩

end GoProvision
