import Mathlib.Data.List.Basic

/-!
# GoProvision — `net.IP` and `net.IPNet`

The address caches of `devicenetwork` and `zedrouter` decide whether two netlink
addresses are "the same entry" with Go's `IP.Equal` and `IPNet.Contains`, and the
status consumers count addresses with `IP.IsLinkLocalUnicast`. This module models
those library functions on the byte slices Go holds: four bytes for an IPv4 address
as netlink reports it, sixteen for IPv6 and for IPv4 in its IPv6 form.

Main results:

* `IP.Equal_iff` — on addresses of length four or sixteen, `IP.Equal` is equality of
  the sixteen-byte forms (`IP.canon`), so it is an equivalence.
* `IPNet.Contains_of_Equal` — a network with a well-formed mask contains every
  address equal to its own.
* `sameEntry_eq_Equal` — the caches' "containment in both directions" test is
  exactly `IP.Equal` once both masks are well-formed for their address family.
-/

namespace GoProvision

/-- `net.IP`: the address bytes. -/
structure IP where
  bytes : List UInt8
  deriving DecidableEq, Repr

def IPv4len : Nat := 4
def IPv6len : Nat := 16

/-- `v4InV6Prefix`: the twelve bytes that put an IPv4 address in IPv6 form. -/
def v4InV6Prefix : List UInt8 := [0, 0, 0, 0, 0, 0, 0, 0, 0, 0, 0xff, 0xff]

def isZeros (p : List UInt8) : Bool := p.all (· == 0)

/-- `IP.To4`: the four-byte form of an IPv4 address, `nil` for any other address. -/
def IP.To4 (ip : IP) : Option IP :=
  if ip.bytes.length = IPv4len then some ip
  else if ip.bytes.length = IPv6len ∧ isZeros (ip.bytes.take 10) = true ∧
      ip.bytes.getD 10 0 = 0xff ∧ ip.bytes.getD 11 0 = 0xff then
    some ⟨ip.bytes.drop 12⟩
  else none

/-- `IP.Equal`: an IPv4 address and the same address in IPv6 form are equal. -/
def IP.Equal (ip x : IP) : Bool :=
  if ip.bytes.length = x.bytes.length then ip.bytes == x.bytes
  else if ip.bytes.length = IPv4len ∧ x.bytes.length = IPv6len then
    x.bytes.take 12 == v4InV6Prefix && ip.bytes == x.bytes.drop 12
  else if ip.bytes.length = IPv6len ∧ x.bytes.length = IPv4len then
    ip.bytes.take 12 == v4InV6Prefix && ip.bytes.drop 12 == x.bytes
  else false

/-- `IP.IsLinkLocalUnicast`: `169.254.0.0/16` and `fe80::/10`. -/
def IP.IsLinkLocalUnicast (ip : IP) : Bool :=
  match ip.To4 with
  | some ip4 => ip4.bytes.getD 0 0 == 169 && ip4.bytes.getD 1 0 == 254
  | none => ip.bytes.length == IPv6len && ip.bytes.getD 0 0 == 0xfe &&
      (ip.bytes.getD 1 0 &&& 0xc0) == 0x80

/-- `net.IPNet`: an address with its mask. -/
structure IPNet where
  IP : IP := ⟨[]⟩
  Mask : List UInt8 := []
  deriving DecidableEq, Repr

/-- `networkNumberAndMask`: the address in its shortest form and the mask cut to its
length; `nil, nil` (here two empty slices) when the mask does not fit the address. -/
def networkNumberAndMask (n : IPNet) : List UInt8 × List UInt8 :=
  let ip : Option IP := match n.IP.To4 with
    | some ip => some ip
    | none => if n.IP.bytes.length = IPv6len then some n.IP else none
  match ip with
  | none => ([], [])
  | some ip =>
    if n.Mask.length = IPv4len then
      if ip.bytes.length = IPv4len then (ip.bytes, n.Mask) else ([], [])
    else if n.Mask.length = IPv6len then
      if ip.bytes.length = IPv4len then (ip.bytes, n.Mask.drop 12) else (ip.bytes, n.Mask)
    else ([], [])

/-- The byte loop of `IPNet.Contains`: `nn[i] & m[i] == ip[i] & m[i]` for every `i`. -/
def maskedEqual : List UInt8 → List UInt8 → List UInt8 → Bool
  | a :: as, b :: bs, m :: ms => (a &&& m == b &&& m) && maskedEqual as bs ms
  | _, _, _ => true

/-- `IPNet.Contains`. -/
def IPNet.Contains (n : IPNet) (ip : GoProvision.IP) : Bool :=
  let (nn, m) := networkNumberAndMask n
  let ip := ip.To4.getD ip
  ip.bytes.length == nn.length && maskedEqual nn ip.bytes m

/-- The match of `IfindexToAddrsAdd` and `IfindexToAddrsDel`: "Equal if containment in
both directions". -/
def sameEntry (a addr : IPNet) : Bool :=
  a.IP.Equal addr.IP && a.Contains addr.IP && addr.Contains a.IP

/-! ## Well-formed addresses -/

/-- An address of one of the two lengths netlink reports. -/
def IP.Valid (ip : IP) : Prop := ip.bytes.length = IPv4len ∨ ip.bytes.length = IPv6len

/-- A mask well-formed for the address family: as long as the address. -/
def IPNet.WellFormed (n : IPNet) : Prop :=
  (n.IP.bytes.length = IPv4len ∧ n.Mask.length = IPv4len) ∨
    (n.IP.bytes.length = IPv6len ∧ n.Mask.length = IPv6len)

theorem IPNet.WellFormed.valid {n : IPNet} (h : n.WellFormed) : n.IP.Valid :=
  h.imp (·.1) (·.1)

/-- The sixteen-byte form of a valid address, what Go's `To16` returns. -/
def IP.canon (ip : IP) : List UInt8 :=
  if ip.bytes.length = IPv4len then v4InV6Prefix ++ ip.bytes else ip.bytes

/-- `To4`'s test on the first twelve bytes is the IPv4-in-IPv6 prefix. -/
theorem v4InV6_test_iff (l : List UInt8) (h : 12 ≤ l.length) :
    (isZeros (l.take 10) = true ∧ l.getD 10 0 = 0xff ∧ l.getD 11 0 = 0xff) ↔
      l.take 12 = v4InV6Prefix := by
  match l, h with
  | a0 :: a1 :: a2 :: a3 :: a4 :: a5 :: a6 :: a7 :: a8 :: a9 :: a10 :: a11 :: rest, _ =>
    simp [isZeros, v4InV6Prefix, and_assoc]

theorem IP.To4_of_length_v6 {ip : IP} (h : ip.bytes.length = IPv6len) :
    ip.To4 = if ip.bytes.take 12 = v4InV6Prefix then some ⟨ip.bytes.drop 12⟩ else none := by
  have h12 : 12 ≤ ip.bytes.length := by rw [h]; decide
  simp only [IP.To4, h, IPv4len, IPv6len, true_and, ← v4InV6_test_iff _ h12]
  rfl

theorem IP.To4_of_length_v4 {ip : IP} (h : ip.bytes.length = IPv4len) : ip.To4 = some ip := by
  simp [IP.To4, h]

@[simp] theorem v4InV6Prefix_length : v4InV6Prefix.length = 12 := rfl

/-- A list of length at least twelve splits at the prefix. -/
theorem eq_prefix_append_iff {l x : List UInt8} (h : l.length = IPv6len) :
    l = v4InV6Prefix ++ x ↔ l.take 12 = v4InV6Prefix ∧ l.drop 12 = x := by
  constructor
  · rintro rfl
    simp
  · rintro ⟨h1, h2⟩
    rw [← List.take_append_drop 12 l, h1, h2]

/-- On valid addresses `IP.Equal` compares the sixteen-byte forms. -/
theorem IP.Equal_iff {x y : IP} (hx : x.Valid) (hy : y.Valid) :
    x.Equal y = true ↔ x.canon = y.canon := by
  unfold IP.Valid IPv4len IPv6len at hx hy
  rcases hx with hx | hx <;> rcases hy with hy | hy <;>
    simp [IP.Equal, IP.canon, IPv4len, IPv6len, hx, hy]
  · rw [eq_comm (a := x.bytes), eq_comm (b := y.bytes), eq_prefix_append_iff hy]
  · rw [eq_prefix_append_iff hx]

/-- An address equal to a valid one is valid. -/
theorem IP.Equal_valid {x y : IP} (hx : x.Valid) (h : x.Equal y = true) : y.Valid := by
  unfold IP.Valid IPv4len IPv6len at *
  unfold IP.Equal IPv4len IPv6len at h
  split_ifs at h <;> omega

theorem IP.Equal_refl (x : IP) : x.Equal x = true := by
  simp [IP.Equal]

/-- Equal addresses are link-local together: an IPv4 address and its IPv6 form have one
`To4`. -/
theorem IP.IsLinkLocalUnicast_of_Equal {x y : IP} (h : x.Equal y = true) :
    x.IsLinkLocalUnicast = y.IsLinkLocalUnicast := by
  unfold IP.Equal at h
  split_ifs at h with hl h4 h6
  · rw [show x = y from by cases x; cases y; simpa using h]
  · simp only [Bool.and_eq_true, beq_iff_eq] at h
    have hy : y.To4 = some x := by
      rw [IP.To4_of_length_v6 h4.2, if_pos h.1, ← h.2]
    simp only [IP.IsLinkLocalUnicast, IP.To4_of_length_v4 h4.1, hy]
  · simp only [Bool.and_eq_true, beq_iff_eq] at h
    have hx : x.To4 = some y := by
      rw [IP.To4_of_length_v6 h6.1, if_pos h.1, h.2]
    simp only [IP.IsLinkLocalUnicast, IP.To4_of_length_v4 h6.2, hx]

theorem IP.Equal_comm {x y : IP} (hx : x.Valid) (hy : y.Valid) : x.Equal y = y.Equal x := by
  rw [Bool.eq_iff_iff, IP.Equal_iff hx hy, IP.Equal_iff hy hx, eq_comm]

/-- `To4` reads only the sixteen-byte form. -/
theorem IP.To4_eq_of_canon {ip : IP} (hv : ip.Valid) :
    ip.To4 = (⟨ip.canon⟩ : IP).To4 := by
  rcases hv with h | h
  · have h16 : (⟨ip.canon⟩ : IP).bytes.length = IPv6len := by
      simp [IP.canon, h, IPv4len, IPv6len]
    rw [IP.To4_of_length_v4 h, IP.To4_of_length_v6 h16]
    simp [IP.canon, h]
  · have h4 : ip.bytes.length ≠ IPv4len := by rw [h]; decide
    simp [IP.canon, h4]

/-- Equal valid addresses have the same shortest form, the one `Contains` compares. -/
theorem IP.Equal_shortest {x y : IP} (hx : x.Valid) (hy : y.Valid) (h : x.Equal y = true) :
    x.To4.getD x = y.To4.getD y := by
  have hc := (IP.Equal_iff hx hy).1 h
  have h4 : x.To4 = y.To4 := by rw [IP.To4_eq_of_canon hx, IP.To4_eq_of_canon hy, hc]
  rw [h4]
  cases hy4 : y.To4 with
  | some _ => rfl
  | none =>
    -- neither is an IPv4 address, so both are their own sixteen-byte form
    have hx16 : x.bytes.length ≠ IPv4len := fun h' => by
      simp [IP.To4_of_length_v4 h'] at h4; simp [← h4] at hy4
    have hy16 : y.bytes.length ≠ IPv4len := fun h' => by
      simp [IP.To4_of_length_v4 h'] at hy4
    simp only [IP.canon, hx16, hy16, if_false] at hc
    cases x; cases y; simp_all

theorem maskedEqual_self (l m : List UInt8) : maskedEqual l l m = true := by
  induction l generalizing m with
  | nil => rfl
  | cons a as ih =>
    cases m with
    | nil => rfl
    | cons b bs => simp [maskedEqual, ih]

/-- For a well-formed network, `networkNumberAndMask` keeps the address's shortest form. -/
theorem networkNumberAndMask_fst {n : IPNet} (h : n.WellFormed) :
    (networkNumberAndMask n).1 = (n.IP.To4.getD n.IP).bytes := by
  rcases h with ⟨hi, hm⟩ | ⟨hi, hm⟩
  · simp [networkNumberAndMask, IP.To4_of_length_v4 hi, hi, hm]
  · have hm4 : n.Mask.length ≠ IPv4len := by rw [hm]; decide
    rw [networkNumberAndMask, IP.To4_of_length_v6 hi]
    split_ifs <;> simp_all [IPv4len, IPv6len]

/-- A well-formed network contains every address equal to its own. -/
theorem IPNet.Contains_of_Equal {n : IPNet} {ip : GoProvision.IP} (hn : n.WellFormed) (hip : ip.Valid)
    (h : ip.Equal n.IP = true) : n.Contains ip = true := by
  have hs := IP.Equal_shortest hip hn.valid h
  simp only [IPNet.Contains, networkNumberAndMask_fst hn, hs, beq_self_eq_true,
    maskedEqual_self, Bool.and_self]

/-- The caches' entry match is `IP.Equal` once both masks are well-formed. -/
theorem sameEntry_eq_Equal {a b : IPNet} (ha : a.WellFormed) (hb : b.WellFormed) :
    sameEntry a b = a.IP.Equal b.IP := by
  cases h : a.IP.Equal b.IP with
  | false => simp [sameEntry, h]
  | true =>
    have h' : b.IP.Equal a.IP = true := by rw [IP.Equal_comm hb.valid ha.valid]; exact h
    simp [sameEntry, h, IPNet.Contains_of_Equal ha hb.valid h',
      IPNet.Contains_of_Equal hb ha.valid h]

end GoProvision
