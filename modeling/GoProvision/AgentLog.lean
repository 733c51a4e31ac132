import Mathlib.Data.List.Basic

/-!
# GoProvision — agentlog: partition directories and reboot reasons

The agentlog functions of `src/types/domainmgrtypes.go`. An agent logs under the
directory of the partition it runs from, `/persist/IMGA` or `/persist/IMGB`, and a
reboot leaves its reason in the `reboot-reason` file of that directory, where the
next boot reads it back as the current or the other partition's reason. Both
directories are memoized in the package variables `currentIMGdir` and `otherIMGdir`.

zboot is not in the source: each call receives what zboot answers at its time
(`Zboot`). Within one boot zboot's availability and the two partitions are fixed,
while the other partition's state can change, as an update moves it to inprogress
(`SameBoot`); `zboot.SetCurpart`, which `Init` calls first, is part of what zboot
answers. The file system is a map from names to contents: an open with `O_CREATE`
makes a missing file empty, `printToFile` appends, `os.Remove` deletes, and every
operation succeeds (a failure only logs in the source). `runtime.Stack` writes as
much of the trace as fits in its buffer.

Main results:

* `getIMGdir_memo_agrees` — over every sequence of calls within one boot the memoized
  directories are zboot's answers: `getCurrentIMGdir` returns the current partition's
  directory and `getOtherIMGdir(false)` the other's.
* `GetOtherLogdir_iff_memo` — `GetOtherLogdir` returns the other partition's log
  directory when that partition is inprogress, and, whatever its state, once an
  earlier call has set `otherIMGdir`: the memo skips the inprogress check.
* `rebootReasons_refine` — within one boot whose two partitions differ, the package
  keeps three reason logs (`Reasons`): `RebootReason` appends its line to the current
  one, each `Discard` empties its own, each `Get` reads its own.
* `rebootReasons_across_switch` — after a reboot into the other partition, the second
  boot's logs start from the first boot's with current and other swapped: a reason written
  before the switch is read as the other partition's after it.
* `getStacks_eq` — the doubling loop of `getStacks` returns the whole trace.
-/

namespace GoProvision

/-- What zboot answers when a call asks it. -/
structure Zboot where
  IsAvailable : Bool
  GetCurrentPartition : String
  GetOtherPartition : String
  IsOtherPartitionStateInProgress : Bool
  deriving DecidableEq, Repr

namespace AgentLog

/-- Two answers of zboot within one boot: only the other partition's state may differ. -/
def SameBoot (z z' : Zboot) : Prop :=
  z.IsAvailable = z'.IsAvailable ∧ z.GetCurrentPartition = z'.GetCurrentPartition ∧
    z.GetOtherPartition = z'.GetOtherPartition

instance (z z' : Zboot) : Decidable (SameBoot z z') := inferInstanceAs (Decidable (_ ∧ _))

def persistDir : String := "/persist"
def reasonFile : String := "reboot-reason"

/-- The package variables `savedAgentName`, `currentIMGdir` and `otherIMGdir`, and the
file system. -/
structure State where
  savedAgentName : String := ""
  currentIMGdir : String := ""
  otherIMGdir : String := ""
  files : String → Option String

/-- The package at process start, over the files earlier boots left. -/
def start (files : String → Option String) : State := { files }

/-- The file system with `filename` set to `c`; `none` removes the file. -/
def State.setFile (s : State) (filename : String) (c : Option String) : State :=
  { s with files := fun f => if f = filename then c else s.files f }

/-! ## The partition directories -/

/-- The directory `getCurrentIMGdir` computes when its memo is empty. -/
def currentIMGdirOf (z : Zboot) : String :=
  let partName := if !z.IsAvailable then "IMGA" else z.GetCurrentPartition
  persistDir ++ "/" ++ partName

def getCurrentIMGdir (z : Zboot) (s : State) : String × State :=
  if s.currentIMGdir != "" then (s.currentIMGdir, s) else
  let currentIMGdir := currentIMGdirOf z
  (currentIMGdir, { s with currentIMGdir })

def getOtherIMGdir (z : Zboot) (inprogressCheck : Bool) (s : State) : String × State :=
  if s.otherIMGdir != "" then (s.otherIMGdir, s) else
  if !z.IsAvailable then ("", s) else
  if inprogressCheck && !z.IsOtherPartitionStateInProgress then ("", s) else
  let otherIMGdir := persistDir ++ "/" ++ z.GetOtherPartition
  (otherIMGdir, { s with otherIMGdir })

/-- What `getOtherIMGdir` computes when its memo is empty. -/
def otherIMGdirOf (z : Zboot) (inprogressCheck : Bool) : String :=
  if !z.IsAvailable then "" else
  if inprogressCheck && !z.IsOtherPartitionStateInProgress then "" else
  persistDir ++ "/" ++ z.GetOtherPartition

def GetCurrentLogdir (z : Zboot) (s : State) : String × State :=
  let (dir, s) := getCurrentIMGdir z s
  (dir ++ "/log", s)

def GetOtherLogdir (z : Zboot) (s : State) : String × State :=
  let (dirname, s) := getOtherIMGdir z true s
  if dirname = "" then ("", s) else (dirname ++ "/log", s)

/-! ## Log files and reboot reasons -/

/-- `initImpl`: the log file it opens, and the package after it; the redirection of
the log and its format are left out. -/
def initImpl (agentName logdir : String) (s : State) : String × State :=
  let s := { s with savedAgentName := agentName }
  let logfile := logdir ++ "/" ++ agentName ++ ".log"
  (logfile, s.setFile logfile (some ((s.files logfile).getD "")))

def Init (z : Zboot) (agentName : String) (s : State) : String × State :=
  let (logdir, s) := GetCurrentLogdir z s
  initImpl agentName logdir s

def InitWithDirText (agentName logdir : String) (s : State) : String × State :=
  initImpl agentName logdir s

def InitChild (z : Zboot) (agentName : String) (s : State) : String × State :=
  let (logdir, s) := GetCurrentLogdir z s
  initImpl agentName logdir s

/-- `statAndRead`: the contents, `""` for a missing file. -/
def statAndRead (s : State) (filename : String) : String := (s.files filename).getD ""

def printToFile (s : State) (filename str : String) : State :=
  s.setFile filename (some ((s.files filename).getD "" ++ str))

/-- The line `RebootReason` appends. -/
def reasonLine (savedAgentName dateStr reason : String) : String :=
  "Reboot from agent " ++ savedAgentName ++ " at " ++ dateStr ++ ": " ++ reason ++ "\n"

/-- `RebootReason`; `dateStr` is `time.Now` as it formats it. -/
def RebootReason (z : Zboot) (reason dateStr : String) (s : State) : State :=
  let (dir, s) := getCurrentIMGdir z s
  printToFile s (dir ++ "/" ++ reasonFile) (reasonLine s.savedAgentName dateStr reason)

def GetCurrentRebootReason (z : Zboot) (s : State) : String × State :=
  let (dir, s) := getCurrentIMGdir z s
  (statAndRead s (dir ++ "/" ++ reasonFile), s)

def GetOtherRebootReason (z : Zboot) (s : State) : String × State :=
  let (dirname, s) := getOtherIMGdir z false s
  if dirname = "" then ("", s) else (statAndRead s (dirname ++ "/" ++ reasonFile), s)

def GetCommonRebootReason (s : State) : String := statAndRead s (persistDir ++ "/" ++ reasonFile)

def DiscardCurrentRebootReason (z : Zboot) (s : State) : State :=
  let (dir, s) := getCurrentIMGdir z s
  s.setFile (dir ++ "/" ++ reasonFile) none

def DiscardOtherRebootReason (z : Zboot) (s : State) : State :=
  let (dirname, s) := getOtherIMGdir z false s
  if dirname = "" then s else s.setFile (dirname ++ "/" ++ reasonFile) none

def DiscardCommonRebootReason (s : State) : State :=
  s.setFile (persistDir ++ "/" ++ reasonFile) none

/-- A call of the package's API. -/
inductive Call
  | Init (agentName : String)
  | InitWithDirText (agentName logdir : String)
  | InitChild (agentName : String)
  | RebootReason (reason dateStr : String)
  | GetCurrentRebootReason
  | GetOtherRebootReason
  | GetCommonRebootReason
  | DiscardCurrentRebootReason
  | DiscardOtherRebootReason
  | DiscardCommonRebootReason
  | GetCurrentLogdir
  | GetOtherLogdir
  deriving DecidableEq, Repr

/-- A call with zboot's answers at its time: what it returns (the log file opened, a
directory, a reason, or `""`) and the package after it. -/
def Call.run (z : Zboot) : Call → State → String × State
  | .Init agentName, s => AgentLog.Init z agentName s
  | .InitWithDirText agentName logdir, s => AgentLog.InitWithDirText agentName logdir s
  | .InitChild agentName, s => AgentLog.InitChild z agentName s
  | .RebootReason reason dateStr, s => ("", AgentLog.RebootReason z reason dateStr s)
  | .GetCurrentRebootReason, s => AgentLog.GetCurrentRebootReason z s
  | .GetOtherRebootReason, s => AgentLog.GetOtherRebootReason z s
  | .GetCommonRebootReason, s => (AgentLog.GetCommonRebootReason s, s)
  | .DiscardCurrentRebootReason, s => ("", AgentLog.DiscardCurrentRebootReason z s)
  | .DiscardOtherRebootReason, s => ("", AgentLog.DiscardOtherRebootReason z s)
  | .DiscardCommonRebootReason, s => ("", AgentLog.DiscardCommonRebootReason s)
  | .GetCurrentLogdir, s => AgentLog.GetCurrentLogdir z s
  | .GetOtherLogdir, s => AgentLog.GetOtherLogdir z s

/-- The package after a sequence of calls, each with zboot's answers at its time. -/
def run (s : State) : List (Zboot × Call) → State
  | [] => s
  | (z, c) :: cs => run (c.run z s).2 cs

/-! ## What a call does to the memos -/

/-- A memo after its lookup: kept once set, else the directory computed. -/
def fill (memo dir : String) : String := if memo = "" then dir else memo

/-- Whether the call looks up `getCurrentIMGdir`. -/
def Call.usesCurrent : Call → Bool
  | .Init _ | .InitChild _ | .RebootReason _ _ | .GetCurrentRebootReason
  | .DiscardCurrentRebootReason | .GetCurrentLogdir => true
  | _ => false

/-- The `inprogressCheck` of the call's `getOtherIMGdir`, if it makes one. -/
def Call.otherCheck : Call → Option Bool
  | .GetOtherRebootReason | .DiscardOtherRebootReason => some false
  | .GetOtherLogdir => some true
  | _ => none

@[simp] theorem State.setFile_currentIMGdir (s : State) (f : String) (c : Option String) :
    (s.setFile f c).currentIMGdir = s.currentIMGdir := rfl

@[simp] theorem State.setFile_otherIMGdir (s : State) (f : String) (c : Option String) :
    (s.setFile f c).otherIMGdir = s.otherIMGdir := rfl

theorem persistDir_append_ne_empty (p : String) : persistDir ++ "/" ++ p ≠ "" := by
  simp [String.ext_iff, persistDir]

theorem getCurrentIMGdir_eq (z : Zboot) (s : State) :
    getCurrentIMGdir z s = (fill s.currentIMGdir (currentIMGdirOf z),
      { s with currentIMGdir := fill s.currentIMGdir (currentIMGdirOf z) }) := by
  unfold getCurrentIMGdir fill
  by_cases h : s.currentIMGdir = "" <;> simp [h]

theorem getOtherIMGdir_eq (z : Zboot) (b : Bool) (s : State) :
    getOtherIMGdir z b s = (fill s.otherIMGdir (otherIMGdirOf z b),
      { s with otherIMGdir := fill s.otherIMGdir (otherIMGdirOf z b) }) := by
  unfold getOtherIMGdir otherIMGdirOf fill
  by_cases h : s.otherIMGdir = "" <;> simp [h]
  split_ifs <;> simp [← h]

/-- Every call fills the memos it looks up and leaves the other one. -/
theorem Call.run_memos (z : Zboot) (c : Call) (s : State) :
    (c.run z s).2.currentIMGdir =
        (if c.usesCurrent then fill s.currentIMGdir (currentIMGdirOf z) else s.currentIMGdir) ∧
      (c.run z s).2.otherIMGdir = match c.otherCheck with
        | some b => fill s.otherIMGdir (otherIMGdirOf z b)
        | none => s.otherIMGdir := by
  cases c <;> simp only [Call.run, AgentLog.Init, AgentLog.InitChild, AgentLog.InitWithDirText,
    initImpl, AgentLog.GetCurrentLogdir, AgentLog.GetOtherLogdir, AgentLog.RebootReason,
    printToFile, AgentLog.GetCurrentRebootReason, AgentLog.GetOtherRebootReason,
    AgentLog.DiscardCurrentRebootReason, AgentLog.DiscardOtherRebootReason,
    AgentLog.DiscardCommonRebootReason, getCurrentIMGdir_eq, getOtherIMGdir_eq, Call.usesCurrent,
    Call.otherCheck, State.setFile_currentIMGdir, State.setFile_otherIMGdir, if_true, if_false,
    Bool.false_eq_true, and_self] <;> split_ifs <;> simp

/-! ## The memos within one boot -/

/-- Each memo holds nothing or zboot's answer; for `otherIMGdir` that is the directory
`getOtherIMGdir(false)` computes. -/
def MemoSound (z : Zboot) (s : State) : Prop :=
  (s.currentIMGdir = "" ∨ s.currentIMGdir = currentIMGdirOf z) ∧
    (s.otherIMGdir = "" ∨ s.otherIMGdir = otherIMGdirOf z false)

theorem fill_of_sound {m d : String} (h : m = "" ∨ m = d) : fill m d = d := by
  unfold fill
  split_ifs with hm
  exacts [rfl, h.resolve_left hm]

theorem fill_of_ne {m d : String} (h : m ≠ "") : fill m d = m := if_neg h

theorem fill_empty (m : String) : fill m "" = m := by
  by_cases h : m = "" <;> simp [fill, h]

/-- A memo that holds nothing or `v`, filled with nothing or `v`, holds nothing or `v`. -/
theorem fill_sound {m d v : String} (hm : m = "" ∨ m = v) (hd : d = "" ∨ d = v) :
    fill m d = "" ∨ fill m d = v := by
  by_cases h : m = ""
  · rwa [h, fill, if_pos rfl]
  · rwa [fill_of_ne h]

theorem SameBoot.currentIMGdirOf_eq {z z' : Zboot} (h : SameBoot z z') :
    currentIMGdirOf z = currentIMGdirOf z' := by
  simp [currentIMGdirOf, h.1, h.2.1]

theorem SameBoot.otherIMGdirOf_eq {z z' : Zboot} (h : SameBoot z z') :
    otherIMGdirOf z false = otherIMGdirOf z' false := by
  simp [otherIMGdirOf, h.1, h.2.2]

/-- With the check, `getOtherIMGdir` computes the same directory or none. -/
theorem otherIMGdirOf_cases (z : Zboot) (b : Bool) :
    otherIMGdirOf z b = "" ∨ otherIMGdirOf z b = otherIMGdirOf z false := by
  unfold otherIMGdirOf
  split_ifs <;> simp_all

theorem MemoSound.start (z : Zboot) (files : String → Option String) :
    MemoSound z (start files) := ⟨.inl rfl, .inl rfl⟩

theorem MemoSound.call {z z' : Zboot} {s : State} (hs : MemoSound z s) (hb : SameBoot z z')
    (c : Call) : MemoSound z (c.run z' s).2 := by
  obtain ⟨hcur, hoth⟩ := Call.run_memos z' c s
  refine ⟨?_, ?_⟩
  · rw [hcur, ← hb.currentIMGdirOf_eq]
    split_ifs
    exacts [fill_sound hs.1 (.inr rfl), hs.1]
  · rw [hoth, hb.otherIMGdirOf_eq]
    split
    · exact fill_sound (hb.otherIMGdirOf_eq ▸ hs.2) (otherIMGdirOf_cases z' _)
    · exact hb.otherIMGdirOf_eq ▸ hs.2

theorem MemoSound.run {z : Zboot} {s : State} (hs : MemoSound z s) {cs : List (Zboot × Call)}
    (hb : ∀ p ∈ cs, SameBoot z p.1) : MemoSound z (run s cs) := by
  induction cs generalizing s with
  | nil => exact hs
  | cons p cs ih =>
    exact ih (hs.call (hb p (List.mem_cons_self _ _)) p.2)
      fun q hq => hb q (List.mem_cons_of_mem _ hq)

/-- Over every sequence of calls within one boot, the memoized lookups return zboot's
answers: the current partition's directory, and the other's for `getOtherIMGdir(false)`. -/
theorem getIMGdir_memo_agrees (z : Zboot) (files : String → Option String)
    (cs : List (Zboot × Call)) (hb : ∀ p ∈ cs, SameBoot z p.1) :
    (getCurrentIMGdir z (run (start files) cs)).1 = currentIMGdirOf z ∧
      (getOtherIMGdir z false (run (start files) cs)).1 = otherIMGdirOf z false := by
  have hs := (MemoSound.start z files).run hb
  rw [getCurrentIMGdir_eq, getOtherIMGdir_eq]
  exact ⟨fill_of_sound hs.1, fill_of_sound hs.2⟩

/-- zboot's answers on a device running from `IMGA` whose `IMGB` is not inprogress. -/
def zbootIMGA : Zboot := ⟨true, "IMGA", "IMGB", false⟩

theorem getIMGdir_memo_agrees_IMGA :
    let cs := [({ zbootIMGA with IsOtherPartitionStateInProgress := true }, Call.GetOtherLogdir),
      (zbootIMGA, .RebootReason "fatal stack trace" "now")]
    (∀ p ∈ cs, SameBoot zbootIMGA p.1) ∧
      ((getCurrentIMGdir zbootIMGA (run (start fun _ => none) cs)).1 = currentIMGdirOf zbootIMGA ∧
        (getOtherIMGdir zbootIMGA false (run (start fun _ => none) cs)).1 =
          otherIMGdirOf zbootIMGA false) :=
  ⟨by decide, getIMGdir_memo_agrees _ _ _ (by decide)⟩

/-! ## The inprogress check of `GetOtherLogdir` -/

/-- The call sets `otherIMGdir`: its `getOtherIMGdir` finds a directory. -/
def setsOther (p : Zboot × Call) : Bool :=
  match p.2.otherCheck with
  | some b => otherIMGdirOf p.1 b != ""
  | none => false

theorem fill_assoc (m x y : String) : fill (fill m x) y = fill m (fill x y) := by
  unfold fill
  split_ifs <;> simp_all

theorem fill_ite (a b : Bool) (v : String) :
    fill (if a then v else "") (if b then v else "") = if a || b then v else "" := by
  cases a <;> cases b <;> simp [fill_empty] <;> simp [fill]

/-- What one call leaves in `otherIMGdir`, within the boot. -/
theorem Call.run_otherIMGdir {z z' : Zboot} (hb : SameBoot z z') (c : Call) (s : State) :
    (c.run z' s).2.otherIMGdir =
      fill s.otherIMGdir (if setsOther (z', c) then otherIMGdirOf z false else "") := by
  rw [(Call.run_memos z' c s).2, setsOther]
  rcases c.otherCheck with _ | b
  · exact (fill_empty _).symm
  · dsimp only
    rcases otherIMGdirOf_cases z' b with h | h
    · simp [h, fill_empty]
    · rw [h, ← hb.otherIMGdirOf_eq]
      by_cases hO : otherIMGdirOf z false = "" <;> simp [hO, fill_empty]

/-- Within one boot, `otherIMGdir` is set once a call has found the other directory. -/
theorem run_otherIMGdir {z : Zboot} (s : State) {cs : List (Zboot × Call)}
    (hb : ∀ p ∈ cs, SameBoot z p.1) :
    (run s cs).otherIMGdir =
      fill s.otherIMGdir (if cs.any setsOther then otherIMGdirOf z false else "") := by
  induction cs generalizing s with
  | nil => exact (fill_empty _).symm
  | cons p cs ih =>
    rw [run, ih _ fun q hq => hb q (List.mem_cons_of_mem _ hq),
      Call.run_otherIMGdir (hb p (List.mem_cons_self _ _)), fill_assoc, fill_ite, List.any_cons]

/-- `GetOtherLogdir` after any sequence of calls within one boot: the other partition's
log directory when zboot is available and that partition is inprogress, or when an
earlier call found the directory, whatever the partition's state; `""` otherwise. -/
theorem GetOtherLogdir_iff_memo (z : Zboot) (files : String → Option String)
    (cs : List (Zboot × Call)) (hb : ∀ p ∈ cs, SameBoot z p.1) :
    (GetOtherLogdir z (run (start files) cs)).1 =
      if z.IsAvailable && (z.IsOtherPartitionStateInProgress || cs.any setsOther) then
        persistDir ++ "/" ++ z.GetOtherPartition ++ "/log"
      else "" := by
  have h := run_otherIMGdir (start files) hb
  rw [show (start files).otherIMGdir = "" from rfl, fill, if_pos rfl] at h
  unfold GetOtherLogdir
  rw [getOtherIMGdir_eq, h]
  have hne := persistDir_append_ne_empty z.GetOtherPartition
  unfold otherIMGdirOf
  cases z.IsAvailable <;> cases z.IsOtherPartitionStateInProgress <;> cases cs.any setsOther <;>
    simp [fill, hne]

/-- After `GetOtherRebootReason`, `GetOtherLogdir` returns `IMGB`'s log directory although
`IMGB` is not inprogress. -/
theorem GetOtherLogdir_after_GetOtherRebootReason :
    zbootIMGA.IsOtherPartitionStateInProgress = false ∧
      (GetOtherLogdir zbootIMGA
        (run (start fun _ => none) [(zbootIMGA, .GetOtherRebootReason)])).1 = "/persist/IMGB/log" :=
  ⟨rfl, (GetOtherLogdir_iff_memo zbootIMGA _ _ (by decide)).trans (by decide)⟩

/-! ## Three reason logs -/

/-- The reboot reasons as the package's callers see them: the agent name `RebootReason`
writes, and the current, other and common logs. -/
structure Reasons where
  agent : String
  current : String
  other : String
  common : String
  deriving DecidableEq, Repr

/-- What a call does to the logs. -/
def Reasons.step (r : Reasons) : Call → Reasons
  | .Init agentName | .InitChild agentName | .InitWithDirText agentName _ =>
    { r with agent := agentName }
  | .RebootReason reason dateStr =>
    { r with current := r.current ++ reasonLine r.agent dateStr reason }
  | .DiscardCurrentRebootReason => { r with current := "" }
  | .DiscardOtherRebootReason => { r with other := "" }
  | .DiscardCommonRebootReason => { r with common := "" }
  | _ => r

/-- What a `Get` call returns. -/
def Reasons.answer (r : Reasons) : Call → Option String
  | .GetCurrentRebootReason => some r.current
  | .GetOtherRebootReason => some r.other
  | .GetCommonRebootReason => some r.common
  | _ => none

/-- The logs the package's files hold, for the boot's zboot answers; there is no other
log when zboot is not available. -/
def State.reasons (z : Zboot) (s : State) : Reasons where
  agent := s.savedAgentName
  current := statAndRead s (currentIMGdirOf z ++ "/" ++ reasonFile)
  other := if otherIMGdirOf z false = "" then ""
    else statAndRead s (otherIMGdirOf z false ++ "/" ++ reasonFile)
  common := statAndRead s (persistDir ++ "/" ++ reasonFile)

theorem dirFile_inj {p q : String}
    (h : persistDir ++ "/" ++ p ++ "/" ++ reasonFile =
      persistDir ++ "/" ++ q ++ "/" ++ reasonFile) :
    p = q := by
  simp only [String.ext_iff, String.data_append, List.append_assoc, List.append_cancel_left_eq,
    List.append_cancel_right_eq] at h
  exact String.ext h

theorem dirFile_ne_common (p : String) :
    persistDir ++ "/" ++ p ++ "/" ++ reasonFile ≠ persistDir ++ "/" ++ reasonFile := by
  intro h
  have := congrArg String.length h
  simp only [String.length_append, show "/".length = 1 from rfl] at this
  omega

theorem currentFile_ne_common (z : Zboot) :
    currentIMGdirOf z ++ "/" ++ reasonFile ≠ persistDir ++ "/" ++ reasonFile :=
  dirFile_ne_common _

/-- The other partition's reason file is neither the current one nor the common one,
within a boot whose two partitions differ. -/
theorem otherFile_ne {z : Zboot}
    (hz : z.IsAvailable → z.GetCurrentPartition ≠ z.GetOtherPartition)
    (ho : otherIMGdirOf z false ≠ "") :
    currentIMGdirOf z ++ "/" ++ reasonFile ≠ otherIMGdirOf z false ++ "/" ++ reasonFile ∧
      otherIMGdirOf z false ++ "/" ++ reasonFile ≠ persistDir ++ "/" ++ reasonFile := by
  cases ha : z.IsAvailable
  · simp [otherIMGdirOf, ha] at ho
  · simp only [currentIMGdirOf, otherIMGdirOf, ha, Bool.not_true, Bool.false_eq_true, if_false,
      Bool.false_and]
    exact ⟨fun h => hz ha (dirFile_inj h), dirFile_ne_common _⟩

/-- Opening a log file with `O_CREATE` changes what no file reads. -/
theorem getD_create (files : String → Option String) (f g : String) :
    (if g = f then some ((files f).getD "") else files g).getD "" = (files g).getD "" := by
  split_ifs with h <;> simp [h]

theorem GetOtherLogdir_snd (z : Zboot) (s : State) :
    (GetOtherLogdir z s).2 = (getOtherIMGdir z true s).2 := by
  unfold GetOtherLogdir
  split
  split <;> simp_all

/-- One call within the boot does to the files what `Reasons.step` does to the logs, and
a `Get` returns its log. -/
theorem Call.run_reasons {z z' : Zboot} {s : State}
    (hz : z.IsAvailable → z.GetCurrentPartition ≠ z.GetOtherPartition) (hs : MemoSound z s)
    (hb : SameBoot z z') (c : Call) :
    (c.run z' s).2.reasons z = (s.reasons z).step c ∧
      ∀ a, (s.reasons z).answer c = some a → (c.run z' s).1 = a := by
  have hc : fill s.currentIMGdir (currentIMGdirOf z') = currentIMGdirOf z :=
    hb.currentIMGdirOf_eq ▸ fill_of_sound hs.1
  have ho : fill s.otherIMGdir (otherIMGdirOf z' false) = otherIMGdirOf z false :=
    hb.otherIMGdirOf_eq ▸ fill_of_sound hs.2
  have h₁ := currentFile_ne_common z
  have h₂ := fun h => (otherFile_ne hz h).1
  have h₃ := fun h => (otherFile_ne hz h).2
  by_cases hO : otherIMGdirOf z false = "" <;>
  cases c <;> simp [Call.run, AgentLog.Init, AgentLog.InitChild, AgentLog.InitWithDirText,
    initImpl, AgentLog.GetCurrentLogdir, GetOtherLogdir_snd, AgentLog.RebootReason,
    printToFile, AgentLog.GetCurrentRebootReason, AgentLog.GetOtherRebootReason,
    AgentLog.GetCommonRebootReason, getD_create, AgentLog.DiscardCurrentRebootReason,
    AgentLog.DiscardOtherRebootReason, AgentLog.DiscardCommonRebootReason, getCurrentIMGdir_eq,
    getOtherIMGdir_eq, hc, ho, hO, Reasons.step, Reasons.answer, State.reasons, statAndRead,
    State.setFile, h₁, h₁.symm, h₂, h₃, fun h => (h₂ h).symm, fun h => (h₃ h).symm]

theorem run_reasons {z : Zboot}
    (hz : z.IsAvailable → z.GetCurrentPartition ≠ z.GetOtherPartition) {s : State}
    (hs : MemoSound z s) {cs : List (Zboot × Call)} (hb : ∀ p ∈ cs, SameBoot z p.1) :
    (run s cs).reasons z = (cs.map Prod.snd).foldl Reasons.step (s.reasons z) := by
  induction cs generalizing s with
  | nil => rfl
  | cons p cs ih =>
    have hp := hb p (List.mem_cons_self _ _)
    rw [run, ih (hs.call hp p.2) fun q hq => hb q (List.mem_cons_of_mem _ hq), List.map_cons,
      List.foldl_cons, (Call.run_reasons hz hs hp p.2).1]

/-- Within one boot whose two partitions differ, after any sequence of calls the reason
files hold the three logs `Reasons.step` builds from the files found at start, and every
`Get` returns its log. -/
theorem rebootReasons_refine (z : Zboot)
    (hz : z.IsAvailable → z.GetCurrentPartition ≠ z.GetOtherPartition)
    (files : String → Option String) (cs : List (Zboot × Call))
    (hb : ∀ p ∈ cs, SameBoot z p.1) (z' : Zboot) (hz' : SameBoot z z') (c : Call) :
    (run (start files) cs).reasons z =
        (cs.map Prod.snd).foldl Reasons.step ((start files).reasons z) ∧
      ∀ a, ((run (start files) cs).reasons z).answer c = some a →
        (c.run z' (run (start files) cs)).1 = a :=
  have hs := (MemoSound.start z files).run hb
  ⟨run_reasons hz (MemoSound.start z files) hb, (Call.run_reasons hz hs hz' c).2⟩

/-- An agent that reboots writes its reason, and the current reason reads it back. -/
theorem rebootReasons_refine_IMGA :
    let cs := [(zbootIMGA, Call.Init "zedagent"),
      (zbootIMGA, .RebootReason "fatal stack trace" "now")]
    (zbootIMGA.IsAvailable → zbootIMGA.GetCurrentPartition ≠ zbootIMGA.GetOtherPartition) ∧
      (∀ p ∈ cs, SameBoot zbootIMGA p.1) ∧ SameBoot zbootIMGA zbootIMGA ∧
      (Call.GetCurrentRebootReason.run zbootIMGA (run (start fun _ => none) cs)).1 =
        "Reboot from agent zedagent at now: fatal stack trace\n" :=
  ⟨by decide, by decide, by decide,
    (rebootReasons_refine zbootIMGA (by decide) _ _ (by decide) zbootIMGA (by decide) _).2 _ rfl⟩

/-- A reboot into the other partition: the files stay, the package starts afresh, and the
logs swap, the previous boot's current log becoming the other one. -/
theorem reasons_after_switch {z z' : Zboot} (ha : z.IsAvailable = true)
    (ha' : z'.IsAvailable = true) (hc : z'.GetCurrentPartition = z.GetOtherPartition)
    (ho : z'.GetOtherPartition = z.GetCurrentPartition) (s : State) :
    (start s.files).reasons z' =
      ⟨"", (s.reasons z).other, (s.reasons z).current, (s.reasons z).common⟩ := by
  simp [State.reasons, currentIMGdirOf, otherIMGdirOf, statAndRead, start, ha, ha', hc, ho,
    persistDir_append_ne_empty]

/-- Two boots, the second from the other partition after a switch: the package starts
afresh on the files the first boot left, so the second boot's logs start from the first
boot's with current and other swapped, and its own calls act on them as within one boot.
What an agent wrote with `RebootReason` before the switch is the other reason after it,
until a `DiscardOtherRebootReason`. -/
theorem rebootReasons_across_switch {z z' : Zboot} (ha : z.IsAvailable = true)
    (hz : z.GetCurrentPartition ≠ z.GetOtherPartition) (ha' : z'.IsAvailable = true)
    (hc : z'.GetCurrentPartition = z.GetOtherPartition)
    (ho : z'.GetOtherPartition = z.GetCurrentPartition) (files : String → Option String)
    (cs cs' : List (Zboot × Call)) (hb : ∀ p ∈ cs, SameBoot z p.1)
    (hb' : ∀ p ∈ cs', SameBoot z' p.1) :
    let r := (cs.map Prod.snd).foldl Reasons.step ((start files).reasons z)
    (run (start (run (start files) cs).files) cs').reasons z' =
      (cs'.map Prod.snd).foldl Reasons.step ⟨"", r.other, r.current, r.common⟩ := by
  have hz' : z'.GetCurrentPartition ≠ z'.GetOtherPartition := by rw [hc, ho]; exact hz.symm
  rw [run_reasons (fun _ => hz') (MemoSound.start z' _) hb', reasons_after_switch ha ha' hc ho,
    run_reasons (fun _ => hz) (MemoSound.start z files) hb]

/-- zboot after the switch from `zbootIMGA`. -/
def zbootIMGB : Zboot := ⟨true, "IMGB", "IMGA", false⟩

/-- zedagent records a reason on `IMGA`; after the switch, zedagent on `IMGB` reads it as
the other partition's reason. -/
theorem rebootReasons_across_switch_IMGB :
    let cs := [(zbootIMGA, Call.Init "zedagent"),
      (zbootIMGA, .RebootReason "fatal stack trace" "now")]
    let cs' := [(zbootIMGB, Call.Init "zedagent")]
    let r := (cs.map Prod.snd).foldl Reasons.step ((start fun _ => none).reasons zbootIMGA)
    zbootIMGA.GetCurrentPartition ≠ zbootIMGA.GetOtherPartition ∧
      (∀ p ∈ cs, SameBoot zbootIMGA p.1) ∧ (∀ p ∈ cs', SameBoot zbootIMGB p.1) ∧
      (run (start (run (start fun _ => none) cs).files) cs').reasons zbootIMGB =
        (cs'.map Prod.snd).foldl Reasons.step ⟨"", r.other, r.current, r.common⟩ ∧
      r.current = "Reboot from agent zedagent at now: fatal stack trace\n" :=
  ⟨by decide, by decide, by decide,
    rebootReasons_across_switch rfl (by decide) rfl rfl rfl _ _ _ (by decide) (by decide),
    by decide⟩

/-! ## getStacks -/

/-- `bufferLen` at pass `k` of the loop of `getStacks`: 16384, doubled after each pass. -/
def bufferLen : Nat → Nat
  | 0 => 16384
  | k + 1 => bufferLen k * 2

theorem bufferLen_pos (k : Nat) : 0 < bufferLen k := by
  induction k with
  | zero => decide
  | succ k ih => simp only [bufferLen]; omega

/-- The loop of `getStacks` from its pass `k`: `runtime.Stack` writes the first
`stackSize` bytes of the trace, as many as fit in the buffer, and the loop ends when they
do not fill it. -/
def getStacksLoop (trace : List UInt8) (k : Nat) : List UInt8 :=
  if h : (trace.take (bufferLen k)).length = bufferLen k then getStacksLoop trace (k + 1)
  else trace.take (bufferLen k)
termination_by trace.length + 1 - bufferLen k
decreasing_by
  rw [List.length_take] at h
  have := bufferLen_pos k
  simp only [bufferLen]
  omega

/-- `getStacks`; `trace` is the stack trace `runtime.Stack` formats for `all`. -/
def getStacks (trace : List UInt8) : List UInt8 := getStacksLoop trace 0

theorem getStacksLoop_eq (trace : List UInt8) (k : Nat) : getStacksLoop trace k = trace := by
  induction k using getStacksLoop.induct trace with
  | case1 k h ih => rw [getStacksLoop, dif_pos h, ih]
  | case2 k h =>
    rw [getStacksLoop, dif_neg h]
    rw [List.length_take] at h
    exact List.take_of_length_le (by omega)

/-- `getStacks` doubles its buffer until the trace fits, and returns the whole trace. -/
theorem getStacks_eq (trace : List UInt8) : getStacks trace = trace := getStacksLoop_eq trace 0

end AgentLog

end GoProvision
