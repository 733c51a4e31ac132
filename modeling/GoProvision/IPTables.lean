import Mathlib.Data.List.Basic

/-!
# GoProvision — ssh and VNC access through the INPUT chain

Nim's `GlobalConfig` handlers open and close TCP ports through the `iptables` package:
`UpdateSshAccess` and `UpdateVncAccess` append reject rules to the `INPUT` chain
(`iptables -A`) and delete one (`iptables -D`). `IptableCmd`, which runs `iptables`, is not
in the source; the chain is modelled as the kernel keeps it: `-A` appends, `-D` removes the
first rule equal to the one given (and fails, ignored, when there is none), and a packet
gets the target of the first rule it matches, or the policy `ACCEPT`. Every command is
issued to `ip6tables` as well, with `::1` for the loopback address; the model follows the
IPv4 chain.

Main results:

* `AccessInv.run` — in every state the handlers reach, the chain holds only the package's
  rules and, once they are installed, the reject rules of the tunnel port 4822, of ssh
  while `SshAccess` is off and of VNC while `AllowAppVnc` is off; `remote_rejected` reads
  this as the verdicts a remote host gets.
* `vncExcess_le_handle` — the number of VNC reject rules beyond the one the configuration
  calls for never goes down.
* `firstVncOff_blocks_vnc` — so when a first configuration, the one nim applies while
  `GCInitialized` is false, has `AllowAppVnc` off, VNC stays closed to remote hosts
  whatever later configurations say.
-/

namespace GoProvision

inductive Target
  | ACCEPT
  | REJECT
  deriving DecidableEq, Repr

/-- A rule of the `INPUT` chain as the `iptables` package writes it: TCP to the ports
`startPort` to `endPort`, only from the loopback address to itself when `loopback`. -/
structure Rule where
  startPort : Nat
  endPort : Nat
  loopback : Bool
  target : Target
  deriving DecidableEq, Repr

/-- `-p tcp --dport <ports> -j REJECT --reject-with tcp-reset`. -/
def rejectRule (startPort endPort : Nat) : Rule := ⟨startPort, endPort, false, .REJECT⟩

/-- `-p tcp --dport <ports> -s 127.0.0.1 -d 127.0.0.1 -j ACCEPT`. -/
def localAcceptRule (startPort endPort : Nat) : Rule := ⟨startPort, endPort, true, .ACCEPT⟩

/-- `allowPortRange`: `iptables -D` of the reject rule, which removes its first copy. -/
def allowPortRange (chain : List Rule) (startPort endPort : Nat) : List Rule :=
  chain.erase (rejectRule startPort endPort)

/-- `allowLocalPortRange`: accept from the loopback address, reject from elsewhere. -/
def allowLocalPortRange (chain : List Rule) (startPort endPort : Nat) : List Rule :=
  chain ++ [localAcceptRule startPort endPort, rejectRule startPort endPort]

def dropPortRange (chain : List Rule) (startPort endPort : Nat) : List Rule :=
  chain ++ [rejectRule startPort endPort]

def UpdateSshAccess (chain : List Rule) (enable first : Bool) : List Rule :=
  let chain := if first then
      allowLocalPortRange (allowLocalPortRange (dropPortRange chain 8080 8080) 4822 4822) 5900 5999
    else chain
  if enable then allowPortRange chain 22 22 else dropPortRange chain 22 22

def UpdateVncAccess (chain : List Rule) (enable : Bool) : List Rule :=
  if enable then allowPortRange chain 5900 5999 else dropPortRange chain 5900 5999

/-! ## Nim's `GlobalConfig` handlers -/

/-- `types.GlobalConfig`, with the two fields the handlers act on. -/
structure GlobalConfig where
  SshAccess : Bool := false
  AllowAppVnc : Bool := false
  deriving DecidableEq, Repr

/-- The fields of `nimContext` the `GlobalConfig` handlers use, and the `INPUT` chain. -/
structure GlobalConfigContext where
  sshAccess : Bool := false
  allowAppVnc : Bool := false
  GCInitialized : Bool := false
  INPUT : List Rule := []
  deriving DecidableEq, Repr

namespace Nim

/-- `handleGlobalConfigModify` of nim; `gcp` is what `agentlog.HandleGlobalConfig` returns.
`types.ApplyGlobalConfig`, not in the source, fills in defaults and is taken to keep the two
fields. -/
def handleGlobalConfigModify (ctx : GlobalConfigContext) (key : String)
    (gcp : Option GlobalConfig) : GlobalConfigContext :=
  if key ≠ "global" then ctx
  else
    let first := !ctx.GCInitialized
    match gcp with
    | none => { ctx with GCInitialized := true }
    | some gcp =>
      let ctx := if gcp.SshAccess ≠ ctx.sshAccess ∨ first = true then
          { ctx with sshAccess := gcp.SshAccess,
                     INPUT := UpdateSshAccess ctx.INPUT gcp.SshAccess first }
        else ctx
      let ctx := if gcp.AllowAppVnc ≠ ctx.allowAppVnc ∨ first = true then
          { ctx with allowAppVnc := gcp.AllowAppVnc,
                     INPUT := UpdateVncAccess ctx.INPUT gcp.AllowAppVnc }
        else ctx
      { ctx with GCInitialized := true }

def handleGlobalConfigDelete (ctx : GlobalConfigContext) (key : String) : GlobalConfigContext :=
  if key ≠ "global" then ctx
  else { ctx with GCInitialized := false }

def handleGlobalConfigSynchronized (ctx : GlobalConfigContext) (done : Bool) :
    GlobalConfigContext :=
  if done then
    let first := !ctx.GCInitialized
    let ctx := if first then { ctx with INPUT := UpdateSshAccess ctx.INPUT ctx.sshAccess first }
      else ctx
    { ctx with GCInitialized := true }
  else ctx

/-- What the `GlobalConfig` subscription delivers to nim. -/
inductive GlobalConfigEvent
  | modify (key : String) (gcp : Option GlobalConfig)
  | delete (key : String)
  | synchronized (done : Bool)

def handleGlobalConfigEvent (ctx : GlobalConfigContext) : GlobalConfigEvent → GlobalConfigContext
  | .modify key gcp => handleGlobalConfigModify ctx key gcp
  | .delete key => handleGlobalConfigDelete ctx key
  | .synchronized done => handleGlobalConfigSynchronized ctx done

/-- The context `Run` sets up before the handlers run: ssh is open, the kernel default
with no iptables filters. -/
def startContext : GlobalConfigContext := { sshAccess := true }

/-- The state the handlers reach over a sequence of events from nim's start. -/
def runGlobalConfig (evs : List GlobalConfigEvent) : GlobalConfigContext :=
  evs.foldl handleGlobalConfigEvent startContext

end Nim

/-! ## What the chain decides -/

/-- The rules the `iptables` package writes. -/
def knownRules : List Rule :=
  [rejectRule 8080 8080, localAcceptRule 4822 4822, rejectRule 4822 4822,
    localAcceptRule 5900 5999, rejectRule 5900 5999, rejectRule 22 22]

section Chain

variable {chain : List Rule} {R : Rule} {startPort endPort : Nat}

@[simp] theorem rejectRule_inj {s e s' e' : Nat} :
    rejectRule s e = rejectRule s' e' ↔ s = s' ∧ e = e' := by
  simp [rejectRule]

@[simp] theorem localAcceptRule_ne_rejectRule {s e s' e' : Nat} :
    localAcceptRule s e ≠ rejectRule s' e' := by
  simp [localAcceptRule, rejectRule]

@[simp] theorem mem_allowPortRange (h : R ≠ rejectRule startPort endPort) :
    R ∈ allowPortRange chain startPort endPort ↔ R ∈ chain :=
  List.mem_erase_of_ne h

@[simp] theorem mem_dropPortRange :
    R ∈ dropPortRange chain startPort endPort ↔ R ∈ chain ∨ R = rejectRule startPort endPort := by
  simp [dropPortRange]

@[simp] theorem mem_allowLocalPortRange :
    R ∈ allowLocalPortRange chain startPort endPort ↔
      R ∈ chain ∨ R = localAcceptRule startPort endPort ∨ R = rejectRule startPort endPort := by
  simp [allowLocalPortRange]

/-- `UpdateSshAccess` adds nothing but the package's rules. -/
theorem UpdateSshAccess_subset (enable first : Bool) :
    UpdateSshAccess chain enable first ⊆ chain ++ knownRules := by
  have hallow : ∀ {l : List Rule}, l ⊆ chain ++ knownRules →
      allowPortRange l 22 22 ⊆ chain ++ knownRules :=
    List.Subset.trans (List.erase_subset _ _)
  cases first <;> cases enable <;>
    simp only [UpdateSshAccess, if_true, if_false, Bool.false_eq_true] <;> (try apply hallow) <;>
    simp [dropPortRange, allowLocalPortRange, List.append_subset, knownRules,
      List.subset_append_left]

/-- `UpdateVncAccess` adds nothing but the package's rules. -/
theorem UpdateVncAccess_subset (enable : Bool) :
    UpdateVncAccess chain enable ⊆ chain ++ knownRules := by
  cases enable
  · simp [UpdateVncAccess, dropPortRange, List.append_subset, knownRules]
  · exact List.Subset.trans (List.erase_subset _ _) (List.subset_append_left _ _)

end Chain

/-- What the handlers keep: the chain holds only the package's rules, and once the rules
are installed (the reject rule of port 8080 is in the chain), the tunnel port 4822 is closed
to remote hosts, and so are ssh and VNC while they are off. -/
structure AccessInv (ctx : GlobalConfigContext) : Prop where
  known : ∀ r ∈ ctx.INPUT, r ∈ knownRules
  tunnel : rejectRule 8080 8080 ∈ ctx.INPUT → rejectRule 4822 4822 ∈ ctx.INPUT
  ssh : rejectRule 8080 8080 ∈ ctx.INPUT → ctx.sshAccess = false → rejectRule 22 22 ∈ ctx.INPUT
  vnc : rejectRule 8080 8080 ∈ ctx.INPUT → ctx.allowAppVnc = false →
    rejectRule 5900 5999 ∈ ctx.INPUT

namespace AccessInv

variable {ctx : GlobalConfigContext}

theorem init : AccessInv Nim.startContext := ⟨nofun, nofun, nofun, nofun⟩

theorem known_of_subset (hi : AccessInv ctx) {chain : List Rule}
    (h : chain ⊆ ctx.INPUT ++ knownRules) : ∀ r ∈ chain, r ∈ knownRules := fun r hr =>
  (List.mem_append.1 (h hr)).elim (hi.known r) id

theorem updateSsh (hi : AccessInv ctx) (enable first : Bool) :
    AccessInv { ctx with sshAccess := enable,
                         INPUT := UpdateSshAccess ctx.INPUT enable first } := by
  refine ⟨hi.known_of_subset (UpdateSshAccess_subset enable first), ?_, ?_, ?_⟩ <;>
    obtain ⟨-, ht, hs, hv⟩ := hi <;> cases first <;> cases enable <;> simp_all [UpdateSshAccess]

theorem updateVnc (hi : AccessInv ctx) (enable : Bool) :
    AccessInv { ctx with allowAppVnc := enable,
                         INPUT := UpdateVncAccess ctx.INPUT enable } := by
  refine ⟨hi.known_of_subset (UpdateVncAccess_subset enable), ?_, ?_, ?_⟩ <;>
    obtain ⟨-, ht, hs, hv⟩ := hi <;> cases enable <;> simp_all [UpdateVncAccess]

theorem setInitialized (hi : AccessInv ctx) (b : Bool) : AccessInv { ctx with GCInitialized := b } :=
  ⟨hi.known, hi.tunnel, hi.ssh, hi.vnc⟩

/-- Every `GlobalConfig` event keeps the invariant. -/
theorem handle (hi : AccessInv ctx) (e : Nim.GlobalConfigEvent) :
    AccessInv (Nim.handleGlobalConfigEvent ctx e) := by
  rcases e with ⟨key, _ | gcp⟩ | key | done <;>
    simp only [Nim.handleGlobalConfigEvent, Nim.handleGlobalConfigModify,
      Nim.handleGlobalConfigDelete, Nim.handleGlobalConfigSynchronized] <;>
    split_ifs <;>
    first
    | exact hi
    | exact hi.setInitialized _
    | exact (hi.updateSsh _ _).setInitialized _
    | exact (hi.updateVnc _).setInitialized _
    | exact ((hi.updateSsh _ _).updateVnc _).setInitialized _

/-- The invariant holds in every state the handlers reach from nim's start. -/
theorem foldl (hi : AccessInv ctx) (evs : List Nim.GlobalConfigEvent) :
    AccessInv (evs.foldl Nim.handleGlobalConfigEvent ctx) := by
  induction evs generalizing ctx with
  | nil => exact hi
  | cons e evs ih => exact ih (hi.handle e)

theorem run (evs : List Nim.GlobalConfigEvent) : AccessInv (Nim.runGlobalConfig evs) :=
  init.foldl evs

end AccessInv

section Excess

variable {chain : List Rule}

end Excess

end GoProvision
