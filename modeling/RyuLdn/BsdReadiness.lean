import Mathlib.Data.Fintype.Defs
import RyuLdn.BitMask
import RyuLdn.ProxySocketManager

/-! `BsdMitmService::Poll` and `Select`. Both look at the proxy sockets first, answer
from them alone when they can, and otherwise forward the call and merge the proxy
sockets into what the real service wrote. The manager is given twice, as the first
pass and as the merge find it: packets arrive and sockets close while the real
service waits. The loop that clears the real entries of an early answer follows the
first pass at once, and no socket is taken to be registered or removed in between. The
counters are far from the bounds of `s32`. -/
namespace RyuLdn.BsdReadiness

open ProxySocket ProxySocketManager

def pollIn : Int16 := 0x0001
def pollOut : Int16 := 0x0004
def pollHup : Int16 := 0x0010

structure PollFd where
  fd : Int
  events : Int16
  revents : Int16
  deriving DecidableEq, Repr

def raised (s : Socket) (events : Int16) : List Int16 :=
  (if events &&& pollIn ≠ 0 ∧ s.hasPendingData = true then [pollIn] else []) ++
    ((if events &&& pollOut ≠ 0 then [pollOut] else []) ++
      if s.state = .closed then [pollHup] else [])

/-- `revents` after the three `|=`. -/
def reventsOf (s : Socket) (events : Int16) : Int16 := (raised s events).foldl (· ||| ·) 0

structure PollScan where
  fds : List PollFd
  hasProxySockets : Bool
  hasRealSockets : Bool
  readyCount : Int

def scanEntry (m : Manager) (scan : PollScan) (entry : PollFd) : PollScan :=
  match m.sockets.lookup entry.fd with
  | some s =>
      let revents := reventsOf s entry.events
      { scan with
        fds := scan.fds ++ [{ entry with revents := revents }]
        hasProxySockets := true
        readyCount := if revents ≠ 0 then scan.readyCount + 1 else scan.readyCount }
  | none =>
      { scan with
        fds := scan.fds ++ [{ entry with revents := 0 }]
        hasRealSockets := true }

/-- The loop that marks the entries of real sockets as not ready; it looks each
descriptor up again. -/
def clearReal (m : Manager) (entry : PollFd) : PollFd :=
  match m.sockets.lookup entry.fd with
  | some _ => entry
  | none => { entry with revents := 0 }

/-- One round of the merge; `count++` stands under each check. -/
def mergeEntry (m : Manager) (merged : List PollFd × Int) (entry : PollFd) : List PollFd × Int :=
  match m.sockets.lookup entry.fd with
  | some s =>
      (merged.1 ++ [{ entry with revents := reventsOf s entry.events }],
        (raised s entry.events).foldl (fun count _ => count + 1) merged.2)
  | none => (merged.1 ++ [entry], merged.2)

structure RealPoll where
  errno : Int
  count : Int
  fds : List PollFd
  deriving DecidableEq, Repr

/-- A call of `Poll`. The buffers hold whole entries; `real` is `none` when the
dispatch to the real service fails. -/
structure PollCall where
  before : Manager
  after : Manager
  fdsIn : List PollFd
  fdsOut : List PollFd
  nfds : Int
  real : Option RealPoll

namespace PollCall

def copied (c : PollCall) : List PollFd :=
  if c.fdsOut.length ≥ c.fdsIn.length then c.fdsIn ++ c.fdsOut.drop c.fdsIn.length else c.fdsOut

def numFds (c : PollCall) : Nat := min (c.nfds % 2 ^ 64).toNat c.fdsOut.length

def entries (c : PollCall) : List PollFd := c.copied.take c.numFds

def scan (c : PollCall) : PollScan := c.entries.foldl (scanEntry c.before) ⟨[], false, false, 0⟩

/-- `Poll`: errno, count and output buffer, or `none` with a failed result code. -/
def poll (c : PollCall) : Option RealPoll :=
  if c.scan.hasProxySockets ∧ !c.scan.hasRealSockets then
    some ⟨0, c.scan.readyCount, c.scan.fds ++ c.copied.drop c.numFds⟩
  else if c.scan.hasProxySockets ∧ c.scan.readyCount > 0 then
    some ⟨0, c.scan.readyCount,
      c.scan.fds.map (clearReal c.before) ++ c.copied.drop c.numFds⟩
  else
    match c.real with
    | none => none
    | some real =>
        if c.scan.hasProxySockets then
          let merged := (real.fds.take c.numFds).foldl (mergeEntry c.after) ([], real.count)
          some ⟨real.errno, merged.2, merged.1 ++ real.fds.drop c.numFds⟩
        else some real

end PollCall

def nonzero (fds : List PollFd) : Nat := fds.countP fun entry => entry.revents ≠ 0

namespace PollCall

/-- The real service fills the buffer it is given and counts the entries it reports. -/
structure Honest (c : PollCall) : Prop where
  size : ∀ real ∈ c.real, real.fds.length = c.fdsOut.length
  count : ∀ real ∈ c.real, real.count = nonzero (real.fds.take c.numFds)

/-- The count is that of the entries the caller finds reported. -/
def Consistent (c : PollCall) : Prop :=
  ∀ report ∈ c.poll, report.count = nonzero (report.fds.take c.numFds)

structure Waits (c : PollCall) : Prop where
  proxy : ∃ entry ∈ c.entries, (c.before.sockets.lookup entry.fd).isSome
  real : ∃ entry ∈ c.entries, c.before.sockets.lookup entry.fd = none
  idle : ∀ entry ∈ c.entries, ∀ s ∈ c.before.sockets.lookup entry.fd, raised s entry.events = []

/-- Of a call that waited, the real service reported no entry of a proxy socket, and
such an entry meets at most one of the three checks afterwards. -/
def Settled (c : PollCall) : Prop :=
  c.Waits → ∀ real ∈ c.real, ∀ entry ∈ real.fds.take c.numFds,
    ∀ s ∈ c.after.sockets.lookup entry.fd, entry.revents = 0 ∧ (raised s entry.events).length ≤ 1

end PollCall

theorem reventsOf_eq_zero_iff (s : Socket) (events : Int16) :
    reventsOf s events = 0 ↔ raised s events = [] := by
  unfold reventsOf raised
  split <;> split <;> split <;> decide

def probed (m : Manager) (entry : PollFd) : PollFd :=
  match m.sockets.lookup entry.fd with
  | some s => { entry with revents := reventsOf s entry.events }
  | none => { entry with revents := 0 }

def merged (m : Manager) (entry : PollFd) : PollFd :=
  match m.sockets.lookup entry.fd with
  | some s => { entry with revents := reventsOf s entry.events }
  | none => entry

def checksMet (m : Manager) (entry : PollFd) : Nat :=
  match m.sockets.lookup entry.fd with
  | some s => (raised s entry.events).length
  | none => 0

theorem nonzero_append (front back : List PollFd) :
    nonzero (front ++ back) = nonzero front + nonzero back := List.countP_append ..

theorem foldl_scanEntry (m : Manager) (entries : List PollFd) (scan : PollScan) :
    entries.foldl (scanEntry m) scan =
      ⟨scan.fds ++ entries.map (probed m),
        scan.hasProxySockets || entries.any fun entry => (m.sockets.lookup entry.fd).isSome,
        scan.hasRealSockets || entries.any fun entry => (m.sockets.lookup entry.fd).isNone,
        scan.readyCount + nonzero (entries.map (probed m))⟩ := by
  induction entries generalizing scan with
  | nil => simp [nonzero]
  | cons entry entries ih =>
      rw [List.foldl_cons, ih]
      unfold scanEntry
      cases found : m.sockets.lookup entry.fd with
      | none => simp [probed, found, nonzero]
      | some s =>
          by_cases quiet : reventsOf s entry.events = 0
          · simp [probed, found, nonzero, quiet]
          · simp [probed, found, nonzero, quiet]
            omega

theorem foldl_mergeEntry (m : Manager) (entries : List PollFd) (acc : List PollFd × Int) :
    entries.foldl (mergeEntry m) acc =
      (acc.1 ++ entries.map (merged m), acc.2 + (entries.map (checksMet m)).sum) := by
  have counts : ∀ (l : List Int16) (count : Int),
      l.foldl (fun count _ => count + 1) count = count + l.length := by
    intro l
    induction l with
    | nil => simp
    | cons _ l ih =>
        intro count
        rw [List.foldl_cons, ih, List.length_cons]
        omega
  induction entries generalizing acc with
  | nil => simp
  | cons entry entries ih =>
      rw [List.foldl_cons, ih]
      unfold mergeEntry
      cases found : m.sockets.lookup entry.fd with
      | none => simp [merged, checksMet, found]
      | some s =>
          simp [merged, checksMet, found, counts]
          omega

theorem clearReal_probed (m : Manager) (entry : PollFd) :
    clearReal m (probed m entry) = probed m entry := by
  unfold clearReal probed
  cases found : m.sockets.lookup entry.fd <;> simp [found]

theorem nonzero_merged_single (m : Manager) (entry : PollFd) :
    nonzero [merged m entry] ≤ nonzero [entry] + checksMet m entry ∧
      (nonzero [entry] + checksMet m entry = nonzero [merged m entry] ↔
        ∀ s ∈ m.sockets.lookup entry.fd, entry.revents = 0 ∧ (raised s entry.events).length ≤ 1) := by
  unfold merged checksMet
  cases found : m.sockets.lookup entry.fd with
  | none => simp
  | some s =>
      have report := reventsOf_eq_zero_iff s entry.events
      rw [← List.length_eq_zero_iff] at report
      simp only [nonzero, List.countP_singleton, decide_eq_true_eq, ne_eq, report,
        Option.mem_some_iff, forall_eq']
      by_cases silent : entry.revents = 0
      · simp only [silent, not_true_eq_false, if_false, true_and]
        split <;> omega
      · simp only [silent, not_false_eq_true, if_true, false_and, iff_false]
        split <;> omega

theorem nonzero_cons (entry : PollFd) (entries : List PollFd) :
    nonzero (entry :: entries) = nonzero [entry] + nonzero entries := by
  rw [← nonzero_append]
  rfl

theorem nonzero_map_merged_le (m : Manager) (entries : List PollFd) :
    nonzero (entries.map (merged m)) ≤ nonzero entries + (entries.map (checksMet m)).sum := by
  induction entries with
  | nil => simp [nonzero]
  | cons entry entries ih =>
      have one := (nonzero_merged_single m entry).1
      rw [List.map_cons, List.map_cons, List.sum_cons, nonzero_cons, nonzero_cons entry]
      omega

theorem nonzero_map_merged_eq_iff (m : Manager) (entries : List PollFd) :
    nonzero entries + (entries.map (checksMet m)).sum = nonzero (entries.map (merged m)) ↔
      ∀ entry ∈ entries, ∀ s ∈ m.sockets.lookup entry.fd,
        entry.revents = 0 ∧ (raised s entry.events).length ≤ 1 := by
  induction entries with
  | nil => simp [nonzero]
  | cons entry entries ih =>
      have le := nonzero_map_merged_le m entries
      obtain ⟨leOne, one⟩ := nonzero_merged_single m entry
      rw [List.forall_mem_cons, ← ih, ← one, List.map_cons, List.map_cons, List.sum_cons,
        nonzero_cons, nonzero_cons (merged m entry)]
      omega

namespace PollCall

theorem scan_eq (c : PollCall) :
    c.scan = ⟨c.entries.map (probed c.before),
      c.entries.any fun entry => (c.before.sockets.lookup entry.fd).isSome,
      c.entries.any fun entry => (c.before.sockets.lookup entry.fd).isNone,
      nonzero (c.entries.map (probed c.before))⟩ := by
  rw [scan, foldl_scanEntry]
  simp

theorem length_copied (c : PollCall) : c.copied.length = c.fdsOut.length := by
  unfold copied
  split <;> simp
  omega

theorem take_entries {c : PollCall} {front : List PollFd} (size : front.length = c.entries.length) :
    (front ++ c.copied.drop c.numFds).take c.numFds = front := by
  have whole : c.entries.length = c.numFds := by
    rw [entries, List.length_take, length_copied]
    exact Nat.min_eq_left (Nat.min_le_right _ _)
  rw [← whole, ← size, List.take_left]

theorem waits_iff (c : PollCall) :
    c.Waits ↔ c.scan.hasProxySockets = true ∧ c.scan.hasRealSockets = true ∧
      c.scan.readyCount = 0 := by
  have idle : nonzero (c.entries.map (probed c.before)) = 0 ↔
      ∀ entry ∈ c.entries, ∀ s ∈ c.before.sockets.lookup entry.fd,
        raised s entry.events = [] := by
    simp only [nonzero, List.countP_eq_zero, List.forall_mem_map, decide_eq_true_eq, not_not]
    constructor
    · intro all entry member s found
      have quiet := all entry member
      rw [probed, Option.mem_def.mp found] at quiet
      exact (reventsOf_eq_zero_iff s entry.events).mp quiet
    · intro all entry member
      unfold probed
      cases found : c.before.sockets.lookup entry.fd with
      | none => rfl
      | some s => exact (reventsOf_eq_zero_iff s entry.events).mpr (all entry member s found)
  rw [scan_eq]
  simp only [List.any_eq_true, Option.isNone_iff_eq_none, Int.natCast_eq_zero, idle]
  exact ⟨fun w => ⟨w.proxy, w.real, w.idle⟩, fun w => ⟨w.1, w.2.1, w.2.2⟩⟩

theorem settled_of_not_waits {c : PollCall} (now : ¬ c.Waits) : c.Settled :=
  fun waits => absurd waits now

theorem nonzero_take_probed (c : PollCall) :
    c.scan.readyCount =
      nonzero ((c.scan.fds ++ c.copied.drop c.numFds).take c.numFds) := by
  rw [scan_eq, take_entries (List.length_map _)]

theorem map_clearReal_scan (c : PollCall) : c.scan.fds.map (clearReal c.before) = c.scan.fds := by
  rw [scan_eq, List.map_map]
  apply List.map_congr_left
  intro entry _
  exact clearReal_probed c.before entry

theorem consistent_of_poll {c : PollCall} {report : RealPoll} (answer : c.poll = some report) :
    c.Consistent ↔ report.count = nonzero (report.fds.take c.numFds) := by
  unfold Consistent
  rw [answer]
  simp

theorem poll_forwarded {c : PollCall} (waits : c.Waits) {real : RealPoll}
    (answer : c.real = some real) :
    c.poll = some ⟨real.errno,
      real.count + ((real.fds.take c.numFds).map (checksMet c.after)).sum,
      (real.fds.take c.numFds).map (merged c.after) ++ real.fds.drop c.numFds⟩ := by
  obtain ⟨proxy, real', idle⟩ := c.waits_iff.mp waits
  unfold poll
  simp [proxy, real', idle, answer, foldl_mergeEntry]

theorem consistent_iff_settled {c : PollCall} (honest : c.Honest) : c.Consistent ↔ c.Settled := by
  by_cases waits : c.Waits
  · cases answer : c.real with
    | none =>
        obtain ⟨proxy, real, idle⟩ := c.waits_iff.mp waits
        simp [Consistent, poll, Settled, proxy, real, idle, answer]
    | some real =>
        have size : (real.fds.take c.numFds).length = c.numFds := by
          rw [List.length_take, honest.size real answer]
          exact Nat.min_eq_left (Nat.min_le_right _ _)
        have array : ((real.fds.take c.numFds).map (merged c.after) ++
            real.fds.drop c.numFds).take c.numFds =
            (real.fds.take c.numFds).map (merged c.after) :=
          List.take_left' (by rw [List.length_map, size])
        rw [consistent_of_poll (poll_forwarded waits answer)]
        dsimp only
        rw [array, honest.count real answer, ← Int.natCast_add, Int.natCast_inj,
          nonzero_map_merged_eq_iff]
        simp [Settled, waits, answer]
  · -- the report comes from one source alone
    have settled := settled_of_not_waits waits
    rw [waits_iff] at waits
    refine iff_of_true ?_ settled
    by_cases proxy : c.scan.hasProxySockets = true
    · by_cases alone : c.scan.hasRealSockets = false
      · have answer : c.poll = some ⟨0, c.scan.readyCount,
            c.scan.fds ++ c.copied.drop c.numFds⟩ := by
          simp [poll, proxy, alone]
        rw [consistent_of_poll answer]
        exact c.nonzero_take_probed
      · have ready : c.scan.readyCount > 0 := by
          have counted := c.nonzero_take_probed
          have mixed : c.scan.hasRealSockets = true := Bool.eq_true_of_not_eq_false alone
          simp only [proxy, mixed, true_and] at waits
          omega
        have answer : c.poll = some ⟨0, c.scan.readyCount,
            c.scan.fds ++ c.copied.drop c.numFds⟩ := by
          unfold poll
          rw [if_neg (by simp [alone]), if_pos ⟨proxy, ready⟩, map_clearReal_scan]
        rw [consistent_of_poll answer]
        exact c.nonzero_take_probed
    · have answer : c.poll = c.real := by
        cases found : c.real <;> simp [poll, proxy, found]
      intro report found
      rw [answer] at found
      exact honest.count report found

end PollCall

inductive FdKind where
  | read | write | error
  deriving DecidableEq, Repr

instance : Fintype FdKind where
  elems := {FdKind.read, FdKind.write, FdKind.error}
  complete kind := by cases kind <;> decide

abbrev FdSets := FdKind → List UInt8

def fdIsset (fd : Int) (fds : List UInt8) : Bool := decide (0 ≤ fd) && BitMask.test fds fd.toNat

def fdSetBit (fd : Int) (fds : List UInt8) : List UInt8 :=
  if 0 ≤ fd then BitMask.set fds fd.toNat else fds

def readyFor (s : Socket) : FdKind → Bool
  | .read => s.hasPendingData
  | .write => true
  | .error => s.state = .closed

/-- One of the three checks, with its `fd_set_bit` and its count. -/
def checkKind (s : Socket) (fdsIn : FdSets) (fd : Int) (acc : FdSets × Int) (kind : FdKind) :
    FdSets × Int :=
  if fdIsset fd (fdsIn kind) && readyFor s kind then
    (Function.update acc.1 kind (fdSetBit fd (acc.1 kind)), acc.2 + 1)
  else acc

def checkSocket (s : Socket) (fdsIn : FdSets) (fd : Int) (acc : FdSets × Int) : FdSets × Int :=
  [FdKind.read, FdKind.write, FdKind.error].foldl (checkKind s fdsIn fd) acc

def asked (fdsIn : FdSets) (fd : Int) : Bool :=
  fdIsset fd (fdsIn .read) || fdIsset fd (fdsIn .write) || fdIsset fd (fdsIn .error)

structure SelectScan where
  fdsOut : FdSets
  hasProxySockets : Bool
  hasRealSockets : Bool
  readyCount : Int

def scanFd (m : Manager) (fdsIn : FdSets) (scan : SelectScan) (fd : Nat) : SelectScan :=
  if !asked fdsIn fd then scan
  else
    match m.sockets.lookup (fd : Int) with
    | some s =>
        let acc := checkSocket s fdsIn fd (scan.fdsOut, scan.readyCount)
        { scan with fdsOut := acc.1, hasProxySockets := true, readyCount := acc.2 }
    | none => { scan with hasRealSockets := true }

def mergeFd (m : Manager) (fdsIn : FdSets) (acc : FdSets × Int) (fd : Nat) : FdSets × Int :=
  match m.sockets.lookup (fd : Int) with
  | some s => checkSocket s fdsIn fd acc
  | none => acc

structure RealSelect where
  errno : Int
  count : Int
  fdsOut : FdSets

/-- A call of `Select`, with the contents of its output buffers before it. -/
structure SelectCall where
  before : Manager
  after : Manager
  nfds : Int
  fdsIn : FdSets
  fdsOut : FdSets
  real : Option RealSelect

namespace SelectCall

def cleared (c : SelectCall) : FdSets := fun kind => BitMask.clear (c.fdsOut kind)

def scan (c : SelectCall) : SelectScan :=
  (List.range c.nfds.toNat).foldl (scanFd c.before c.fdsIn) ⟨c.cleared, false, false, 0⟩

/-- `Select`: errno, count and output sets, or `none` with a failed result code. -/
def select (c : SelectCall) : Option RealSelect :=
  if c.scan.hasProxySockets ∧ !c.scan.hasRealSockets then
    some ⟨0, c.scan.readyCount, c.scan.fdsOut⟩
  else if c.scan.hasProxySockets ∧ c.scan.readyCount > 0 then
    some ⟨0, c.scan.readyCount, c.scan.fdsOut⟩
  else
    match c.real with
    | none => none
    | some real =>
        if c.scan.hasProxySockets then
          let merged := (List.range c.nfds.toNat).foldl (mergeFd c.after c.fdsIn)
            (real.fdsOut, real.count)
          some ⟨real.errno, merged.2, merged.1⟩
        else some real

def Honest (c : SelectCall) : Prop := ∀ real ∈ c.real, real.count = BitMask.total real.fdsOut

def Consistent (c : SelectCall) : Prop :=
  ∀ report ∈ c.select, report.count = BitMask.total report.fdsOut

def Ready (m : Manager) (c : SelectCall) (fd : Nat) (kind : FdKind) : Prop :=
  (fd : Int) < c.nfds ∧ fdIsset fd (c.fdsIn kind) = true ∧
    ∃ s ∈ m.sockets.lookup (fd : Int), readyFor s kind = true

structure Waits (c : SelectCall) : Prop where
  proxy : ∃ fd : Nat, (fd : Int) < c.nfds ∧ asked c.fdsIn fd = true ∧
    (c.before.sockets.lookup (fd : Int)).isSome
  real : ∃ fd : Nat, (fd : Int) < c.nfds ∧ asked c.fdsIn fd = true ∧
    c.before.sockets.lookup (fd : Int) = none
  idle : ∀ fd kind, ¬ Ready c.before c fd kind

/-- What is ready at first has room in its output set; what is ready after a call that
waited has room there and is not reported by the real service already. -/
structure Settled (c : SelectCall) : Prop where
  room : ∀ fd kind, Ready c.before c fd kind → BitMask.Fits (c.fdsOut kind) fd
  apart : c.Waits → ∀ real ∈ c.real, ∀ fd kind, Ready c.after c fd kind →
    BitMask.Fresh (real.fdsOut kind) fd

end SelectCall

@[simp] theorem fdIsset_natCast (fd : Nat) (fds : List UInt8) :
    fdIsset (fd : Int) fds = BitMask.test fds fd := by
  simp [fdIsset]

@[simp] theorem fdSetBit_natCast (fd : Nat) (fds : List UInt8) :
    fdSetBit (fd : Int) fds = BitMask.set fds fd := by
  simp [fdSetBit]

def metChecks (m : Manager) (fdsIn : FdSets) (fd : Nat) : List (Nat × FdKind) :=
  match m.sockets.lookup (fd : Int) with
  | some s =>
      ([FdKind.read, FdKind.write, FdKind.error].filter fun kind =>
        fdIsset fd (fdsIn kind) && readyFor s kind).map fun kind => (fd, kind)
  | none => []

/-- The checks met in a pass over the descriptors below `n`. -/
def passChecks (m : Manager) (fdsIn : FdSets) (n : Nat) : List (Nat × FdKind) :=
  (List.range n).flatMap (metChecks m fdsIn)

theorem mem_metChecks {m : Manager} {fdsIn : FdSets} {fd : Nat} {p : Nat × FdKind} :
    p ∈ metChecks m fdsIn fd ↔ p.1 = fd ∧ fdIsset fd (fdsIn p.2) = true ∧
      ∃ s ∈ m.sockets.lookup (fd : Int), readyFor s p.2 = true := by
  obtain ⟨i, kind⟩ := p
  unfold metChecks
  cases found : m.sockets.lookup (fd : Int) with
  | none => simp
  | some s =>
      have every : kind ∈ [FdKind.read, FdKind.write, FdKind.error] := by cases kind <;> decide
      simp only [List.mem_map, List.mem_filter, Bool.and_eq_true, Prod.mk.injEq,
        Option.mem_some_iff, exists_eq_left']
      constructor
      · rintro ⟨k, ⟨_, met⟩, same, rfl⟩
        exact ⟨same.symm, met⟩
      · rintro ⟨rfl, met⟩
        exact ⟨kind, ⟨every, met⟩, rfl, rfl⟩

theorem nodup_passChecks (m : Manager) (fdsIn : FdSets) (n : Nat) :
    (passChecks m fdsIn n).Nodup := by
  unfold passChecks
  rw [List.nodup_flatMap]
  constructor
  · intro fd _
    unfold metChecks
    split
    · refine List.Nodup.map ?_ (List.Nodup.filter _ (by decide))
      intro a b same
      exact (Prod.mk.inj same).2
    · exact List.nodup_nil
  · refine List.Pairwise.imp ?_ List.nodup_range
    intro i j apart p first second
    exact apart ((mem_metChecks.mp first).1.symm.trans (mem_metChecks.mp second).1)

theorem checkSocket_eq (s : Socket) (fdsIn : FdSets) (fd : Nat) (acc : FdSets × Int)
    (kinds : List FdKind) :
    kinds.foldl (checkKind s fdsIn fd) acc =
      let met := (kinds.filter fun kind =>
        fdIsset fd (fdsIn kind) && readyFor s kind).map fun kind => (fd, kind)
      (met.foldl BitMask.setAt acc.1, acc.2 + met.length) := by
  induction kinds generalizing acc with
  | nil => simp
  | cons kind kinds ih =>
      rw [List.foldl_cons, ih]
      by_cases met : (fdIsset (fd : Int) (fdsIn kind) && readyFor s kind) = true
      · simp only [checkKind, met, if_true, List.filter_cons_of_pos, List.map_cons,
          List.foldl_cons, List.length_cons, BitMask.setAt, fdSetBit_natCast]
        refine Prod.ext rfl ?_
        dsimp only
        omega
      · simp only [checkKind, met, Bool.false_eq_true, if_false, not_false_eq_true,
          List.filter_cons_of_neg]

theorem foldl_mergeFd (m : Manager) (fdsIn : FdSets) (fds : List Nat) (acc : FdSets × Int) :
    fds.foldl (mergeFd m fdsIn) acc =
      ((fds.flatMap (metChecks m fdsIn)).foldl BitMask.setAt acc.1,
        acc.2 + (fds.flatMap (metChecks m fdsIn)).length) := by
  induction fds generalizing acc with
  | nil => simp
  | cons fd fds ih =>
      rw [List.foldl_cons, ih, List.flatMap_cons, List.foldl_append, List.length_append]
      unfold mergeFd metChecks
      cases found : m.sockets.lookup (fd : Int) with
      | none => simp
      | some s =>
          dsimp only
          rw [checkSocket, checkSocket_eq]
          refine Prod.ext rfl ?_
          dsimp only
          omega

theorem metChecks_of_not_asked (m : Manager) {fdsIn : FdSets} {fd : Nat}
    (unasked : asked fdsIn fd = false) : metChecks m fdsIn fd = [] := by
  apply List.eq_nil_iff_forall_not_mem.mpr
  intro p member
  have isset := (mem_metChecks.mp member).2.1
  simp only [asked, Bool.or_eq_false_iff] at unasked
  cases kind : p.2 <;> simp_all

theorem foldl_scanFd (m : Manager) (fdsIn : FdSets) (fds : List Nat) (scan : SelectScan) :
    fds.foldl (scanFd m fdsIn) scan =
      ⟨(fds.flatMap (metChecks m fdsIn)).foldl BitMask.setAt scan.fdsOut,
        scan.hasProxySockets ||
          fds.any fun fd => asked fdsIn fd && (m.sockets.lookup (fd : Int)).isSome,
        scan.hasRealSockets ||
          fds.any fun fd => asked fdsIn fd && (m.sockets.lookup (fd : Int)).isNone,
        scan.readyCount + (fds.flatMap (metChecks m fdsIn)).length⟩ := by
  induction fds generalizing scan with
  | nil => simp
  | cons fd fds ih =>
      rw [List.foldl_cons, ih, List.flatMap_cons, List.foldl_append, List.length_append,
        List.any_cons, List.any_cons]
      unfold scanFd
      by_cases wanted : asked fdsIn fd = true
      · simp only [wanted, Bool.not_true, Bool.false_eq_true, if_false, Bool.true_and]
        cases found : m.sockets.lookup (fd : Int) with
        | none => simp [metChecks, found]
        | some s =>
            simp only [checkSocket, checkSocket_eq, metChecks, found, Option.isSome_some,
              Option.isNone_some, Bool.true_or, Bool.or_true, Bool.false_or]
            congr 1
            omega
      · have unasked : asked fdsIn fd = false := by simpa using wanted
        simp [unasked, metChecks_of_not_asked]

namespace SelectCall

def checks (c : SelectCall) (m : Manager) : List (Nat × FdKind) :=
  passChecks m c.fdsIn c.nfds.toNat

theorem mem_checks {c : SelectCall} {m : Manager} {p : Nat × FdKind} :
    p ∈ c.checks m ↔ Ready m c p.1 p.2 := by
  have bound : ∀ fd, fd ∈ List.range c.nfds.toNat ↔ (fd : Int) < c.nfds := by
    intro fd
    rw [List.mem_range]
    omega
  unfold checks passChecks Ready
  rw [List.mem_flatMap]
  constructor
  · rintro ⟨fd, inside, member⟩
    obtain ⟨rfl, met⟩ := mem_metChecks.mp member
    exact ⟨(bound _).mp inside, met⟩
  · rintro ⟨inside, met⟩
    exact ⟨p.1, (bound _).mpr inside, mem_metChecks.mpr ⟨rfl, met⟩⟩

theorem scan_eq (c : SelectCall) :
    c.scan = ⟨(c.checks c.before).foldl BitMask.setAt c.cleared,
      (List.range c.nfds.toNat).any fun fd =>
        asked c.fdsIn fd && (c.before.sockets.lookup (fd : Int)).isSome,
      (List.range c.nfds.toNat).any fun fd =>
        asked c.fdsIn fd && (c.before.sockets.lookup (fd : Int)).isNone,
      (c.checks c.before).length⟩ := by
  rw [scan, foldl_scanFd]
  simp [checks, passChecks]

theorem waits_iff (c : SelectCall) :
    c.Waits ↔ c.scan.hasProxySockets = true ∧ c.scan.hasRealSockets = true ∧
      c.scan.readyCount = 0 := by
  have bound : ∀ fd : Nat, fd < c.nfds.toNat ↔ (fd : Int) < c.nfds := by
    intro fd
    omega
  have idle : c.checks c.before = [] ↔ ∀ fd kind, ¬ Ready c.before c fd kind := by
    rw [List.eq_nil_iff_forall_not_mem]
    simp only [mem_checks, Prod.forall]
  rw [scan_eq]
  simp only [List.any_eq_true, List.mem_range, Bool.and_eq_true, Option.isNone_iff_eq_none,
    Int.natCast_eq_zero, List.length_eq_zero_iff, idle, bound]
  exact ⟨fun w => ⟨w.proxy, w.real, w.idle⟩, fun w => ⟨w.1, w.2.1, w.2.2⟩⟩

theorem total_cleared (c : SelectCall) : BitMask.total c.cleared = 0 := by
  simp [BitMask.total, cleared, BitMask.count_clear]

theorem scan_consistent_iff (c : SelectCall) :
    c.scan.readyCount = BitMask.total c.scan.fdsOut ↔
      ∀ fd kind, Ready c.before c fd kind → BitMask.Fits (c.fdsOut kind) fd := by
  have exact := BitMask.total_foldl_setAt_eq_iff (nodup_passChecks c.before c.fdsIn c.nfds.toNat)
    c.cleared
  rw [total_cleared, Nat.zero_add] at exact
  rw [scan_eq]
  dsimp only
  rw [Int.natCast_inj, eq_comm]
  refine exact.trans ?_
  simp only [cleared, BitMask.fresh_clear, Prod.forall]
  exact forall₂_congr fun fd kind => imp_congr_left mem_checks

theorem consistent_of_select {c : SelectCall} {report : RealSelect}
    (answer : c.select = some report) :
    c.Consistent ↔ report.count = BitMask.total report.fdsOut := by
  unfold Consistent
  rw [answer]
  simp

theorem select_forwarded {c : SelectCall} (waits : c.Waits) {real : RealSelect}
    (answer : c.real = some real) :
    c.select = some ⟨real.errno, real.count + (c.checks c.after).length,
      (c.checks c.after).foldl BitMask.setAt real.fdsOut⟩ := by
  obtain ⟨proxy, real', idle⟩ := c.waits_iff.mp waits
  unfold select
  simp [proxy, real', idle, answer, foldl_mergeFd, checks, passChecks]

theorem select_early {c : SelectCall} (proxy : c.scan.hasProxySockets = true)
    (now : ¬ c.Waits) : c.select = some ⟨0, c.scan.readyCount, c.scan.fdsOut⟩ := by
  unfold select
  by_cases alone : c.scan.hasRealSockets = false
  · simp [proxy, alone]
  · have ready : c.scan.readyCount > 0 := by
      have counted : c.scan.readyCount = (c.checks c.before).length := by rw [scan_eq]
      have mixed : c.scan.hasRealSockets = true := Bool.eq_true_of_not_eq_false alone
      simp only [waits_iff, proxy, mixed, true_and] at now
      omega
    simp [proxy, alone, ready]

theorem asked_of_ready {c : SelectCall} {m : Manager} {fd : Nat} {kind : FdKind}
    (ready : Ready m c fd kind) : asked c.fdsIn fd = true := by
  have isset := ready.2.1
  unfold asked
  cases kind <;> simp [isset]

theorem not_ready_of_no_proxy {c : SelectCall} (none : c.scan.hasProxySockets = false) (fd : Nat)
    (kind : FdKind) : ¬ Ready c.before c fd kind := by
  intro ready
  have wanted := asked_of_ready ready
  obtain ⟨bound, -, s, found, -⟩ := ready
  rw [scan_eq] at none
  simp only [List.any_eq_false, List.mem_range, Bool.and_eq_true, not_and] at none
  have absent := none fd (by omega) wanted
  rw [Option.mem_def.mp found] at absent
  exact absent rfl

theorem consistent_iff_settled {c : SelectCall} (honest : c.Honest) :
    c.Consistent ↔ c.Settled := by
  by_cases waits : c.Waits
  · have room : ∀ fd kind, Ready c.before c fd kind → BitMask.Fits (c.fdsOut kind) fd :=
      fun fd kind ready => absurd ready (waits.idle fd kind)
    cases answer : c.real with
    | none =>
        obtain ⟨proxy, real, idle⟩ := c.waits_iff.mp waits
        have silent : c.select = none := by simp [select, proxy, real, idle, answer]
        constructor
        · exact fun _ => ⟨room, fun _ _ found => by simp [answer] at found⟩
        · intro _ report found
          rw [silent] at found
          cases found
    | some real =>
        have exact := BitMask.total_foldl_setAt_eq_iff
          (nodup_passChecks c.after c.fdsIn c.nfds.toNat) real.fdsOut
        have fresh : c.Settled ↔ ∀ p ∈ c.checks c.after, BitMask.Fresh (real.fdsOut p.2) p.1 := by
          constructor
          · intro settled p member
            exact settled.apart waits real answer p.1 p.2 (mem_checks.mp member)
          · intro all
            refine ⟨room, fun _ other found fd kind ready => ?_⟩
            rw [answer, Option.mem_some_iff] at found
            rw [← found]
            exact all (fd, kind) (mem_checks.mpr ready)
        rw [consistent_of_select (select_forwarded waits answer), fresh]
        dsimp only
        rw [honest real answer, ← Int.natCast_add, Int.natCast_inj, eq_comm]
        exact exact
  · have settled : c.Settled ↔
        ∀ fd kind, Ready c.before c fd kind → BitMask.Fits (c.fdsOut kind) fd :=
      ⟨fun s => s.room, fun room => ⟨room, fun w => absurd w waits⟩⟩
    rw [settled]
    by_cases proxy : c.scan.hasProxySockets = true
    · rw [consistent_of_select (select_early proxy waits)]
      exact c.scan_consistent_iff
    · have answer : c.select = c.real := by
        cases found : c.real <;> simp [select, proxy, found]
      refine iff_of_true ?_ ?_
      · intro report found
        rw [answer] at found
        exact honest report found
      · intro fd kind ready
        exact absurd ready (not_ready_of_no_proxy (Bool.eq_false_of_not_eq_true proxy) fd kind)

end SelectCall

theorem counts_consistent_iff {poll : PollCall} {select : SelectCall} (polled : poll.Honest)
    (selected : select.Honest) :
    (poll.Consistent ↔ poll.Settled) ∧ (select.Consistent ↔ select.Settled) :=
  ⟨PollCall.consistent_iff_settled polled, SelectCall.consistent_iff_settled selected⟩

def withProxy (packets : List (List UInt8)) : Manager :=
  Manager.init.setSocket 3
    (packets.foldl (fun s bytes => s.incomingData bytes (.ofHost 0x0A720002 5000))
      (Socket.new .dgram .udp))

def mixedPoll (count : Int) (proxyEvents realEvents : Int16) : PollCall where
  before := withProxy []
  after := withProxy []
  fdsIn := [⟨3, pollIn, 0⟩, ⟨4, pollIn, 0⟩]
  fdsOut := [⟨0, 0, 0⟩, ⟨0, 0, 0⟩]
  nfds := 2
  real := some ⟨0, count, [⟨3, pollIn, proxyEvents⟩, ⟨4, pollIn, realEvents⟩]⟩

/-- The same as a select; a packet arrives for the proxy socket in between. -/
def mixedSelect (count : Int) (readable : UInt8) : SelectCall where
  before := withProxy []
  after := withProxy [[1]]
  nfds := 5
  fdsIn := fun kind => if kind = .read then [0x18] else []
  fdsOut := fun kind => if kind = .read then [0] else []
  real := some ⟨0, count, fun kind => if kind = .read then [readable] else []⟩

theorem mixedPoll_settled : (mixedPoll 1 0 pollIn).Settled := by
  intro _ real answer entry member s found
  cases answer
  have both : (mixedPoll 1 0 pollIn).numFds = 2 := rfl
  have array : entry = ⟨3, pollIn, 0⟩ ∨ entry = ⟨4, pollIn, pollIn⟩ := by
    simpa [both] using member
  rcases array with rfl | rfl
  · cases found
    decide +kernel
  · cases found

theorem mixedSelect_settled : (mixedSelect 1 0x10).Settled where
  room fd kind ready := by
    have all : ∀ p ∈ (mixedSelect 1 0x10).checks (withProxy []),
        BitMask.Fits ((mixedSelect 1 0x10).fdsOut p.2) p.1 := by decide +kernel
    exact all (fd, kind) (SelectCall.mem_checks.mpr ready)
  apart _ real answer fd kind ready := by
    cases answer
    have all : ∀ p ∈ (mixedSelect 1 0x10).checks (withProxy [[1]]),
        BitMask.Fresh (if p.2 = FdKind.read then [0x10] else []) p.1 := by decide +kernel
    exact all (fd, kind) (SelectCall.mem_checks.mpr ready)

/-- The real service reports descriptor 4 only. -/
theorem counts_consistent_iff_mixed :
    (mixedPoll 1 0 pollIn).Consistent ∧ (mixedSelect 1 0x10).Consistent := by
  have polls : (mixedPoll 1 0 pollIn).Honest := by
    constructor <;> intro real found <;> cases found <;> decide
  have selects : (mixedSelect 1 0x10).Honest := by
    intro real found
    cases found
    decide +kernel
  have exactly := counts_consistent_iff polls selects
  exact ⟨exactly.1.mpr mixedPoll_settled, exactly.2.mpr mixedSelect_settled⟩

/-- The real service reports the descriptor of the proxy socket: the poll overwrites
the entry and keeps its count, the select counts its bit a second time. -/
theorem merge_miscounts :
    (mixedPoll 1 pollHup 0).Honest ∧ ¬ (mixedPoll 1 pollHup 0).Consistent ∧
      (mixedSelect 1 0x08).Honest ∧ ¬ (mixedSelect 1 0x08).Consistent := by
  refine ⟨?_, ?_, ?_, ?_⟩
  · constructor <;> intro real found <;> cases found <;> decide
  · have answer : (mixedPoll 1 pollHup 0).poll =
        some ⟨0, 1, [⟨3, pollIn, 0⟩, ⟨4, pollIn, 0⟩]⟩ := by decide +kernel
    rw [PollCall.consistent_of_poll answer]
    decide
  · intro real found
    cases found
    decide +kernel
  · intro consistent
    have answer : (mixedSelect 1 0x08).select.map
        (fun report => (report.count, BitMask.total report.fdsOut)) = some (2, 1) := by
      decide +kernel
    obtain ⟨report, found, counts⟩ := Option.map_eq_some_iff.mp answer
    have same := consistent report found
    rw [(Prod.mk.inj counts).1, (Prod.mk.inj counts).2] at same
    exact absurd same (by decide)

end RyuLdn.BsdReadiness
