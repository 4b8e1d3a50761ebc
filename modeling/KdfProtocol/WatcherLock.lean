import KdfProtocol.GuardedRun
import KdfProtocol.HashMap

/-!
# One watcher for a swap

Every watcher message is handled in a task of its own.  The task takes a lock under the
taker fee hash, runs its state machine and drops the lock at the end.  The lock is an entry
that expires, and it is removed by its hash alone.
-/

namespace KdfProtocol

def TAKER_SWAP_WATCHER_ENTRY_TIMEOUT_SECS : ℕ := 21600

namespace SwapWatcherLock

variable (watchers : HashMap (List UInt8) ℕ) (feeHash : List UInt8)

def tryLock (nowSec : ℕ) : Option (HashMap (List UInt8) ℕ) :=
  match watchers.lookup feeHash with
  | some expiry =>
    if nowSec < expiry then none
    else some ((watchers.erase feeHash).insert feeHash
      (nowSec + TAKER_SWAP_WATCHER_ENTRY_TIMEOUT_SECS))
  | none => some (watchers.insert feeHash (nowSec + TAKER_SWAP_WATCHER_ENTRY_TIMEOUT_SECS))

def drop : HashMap (List UInt8) ℕ :=
  watchers.erase feeHash

end SwapWatcherLock

structure RunningWatcher where
  feeHash : List UInt8
  lockedAt : ℕ
  deriving DecidableEq, Repr

structure WatcherNode where
  takerSwapWatchers : HashMap (List UInt8) ℕ
  running : List RunningWatcher

inductive WatcherEvent where
  | message (feeHash : List UInt8) (nowSec : ℕ)
  | finish (watcher : RunningWatcher)

namespace WatcherNode

def initial : WatcherNode := ⟨∅, []⟩

def step (s : WatcherNode) : WatcherEvent → WatcherNode
  | .message feeHash nowSec =>
    match SwapWatcherLock.tryLock s.takerSwapWatchers feeHash nowSec with
    | some watchers => ⟨watchers, ⟨feeHash, nowSec⟩ :: s.running⟩
    | none => s
  | .finish watcher =>
    if watcher ∈ s.running then
      ⟨SwapWatcherLock.drop s.takerSwapWatchers watcher.feeHash, s.running.erase watcher⟩
    else s

/-- No two watchers run for one hash, and each that runs has its lock. -/
structure OneWatcher (s : WatcherNode) : Prop where
  exclusive : (s.running.map RunningWatcher.feeHash).Nodup
  locked : ∀ watcher ∈ s.running, watcher.feeHash ∈ s.takerSwapWatchers

/-- A message is handled before the lock of a watcher of its hash has expired. -/
def InTime (s : WatcherNode) : WatcherEvent → Prop
  | .message feeHash nowSec => ∀ watcher ∈ s.running, watcher.feeHash = feeHash →
    nowSec < watcher.lockedAt + TAKER_SWAP_WATCHER_ENTRY_TIMEOUT_SECS
  | .finish _ => True

structure Kept (s : WatcherNode) : Prop where
  exclusive : (s.running.map RunningWatcher.feeHash).Nodup
  entry : ∀ watcher ∈ s.running, s.takerSwapWatchers.lookup watcher.feeHash =
    some (watcher.lockedAt + TAKER_SWAP_WATCHER_ENTRY_TIMEOUT_SECS)

variable {s : WatcherNode}

theorem Kept.oneWatcher (hkept : s.Kept) : s.OneWatcher where
  exclusive := hkept.exclusive
  locked watcher hrun := by
    rw [HashMap.mem_iff_lookup]
    exact ⟨_, hkept.entry watcher hrun⟩

variable {feeHash : List UInt8} {nowSec : ℕ} {watchers : HashMap (List UInt8) ℕ}

theorem tryLock_eq_some (hlock : SwapWatcherLock.tryLock s.takerSwapWatchers feeHash nowSec =
      some watchers) :
    (∀ expiry, s.takerSwapWatchers.lookup feeHash = some expiry → expiry ≤ nowSec) ∧
      ∀ other, watchers.lookup other =
        if other = feeHash then some (nowSec + TAKER_SWAP_WATCHER_ENTRY_TIMEOUT_SECS)
        else s.takerSwapWatchers.lookup other := by
  unfold SwapWatcherLock.tryLock at hlock
  cases hentry : s.takerSwapWatchers.lookup feeHash with
  | none =>
    rw [hentry] at hlock
    cases hlock
    exact ⟨by simp, s.takerSwapWatchers.lookup_insert_if feeHash _⟩
  | some expiry =>
    rw [hentry] at hlock
    simp only [Option.ite_none_left_eq_some, not_lt, Option.some.injEq] at hlock
    obtain ⟨hexpired, rfl⟩ := hlock
    refine ⟨by simpa using hexpired, fun other => ?_⟩
    rw [HashMap.lookup_insert_if]
    split
    · rfl
    next hne => rw [HashMap.lookup_erase_if, if_neg hne]

theorem Kept.message (hkept : s.Kept) (htime : s.InTime (.message feeHash nowSec)) :
    (s.step (.message feeHash nowSec)).Kept := by
  rw [step]
  split
  next watchers hlock =>
    obtain ⟨hexpired, hentries⟩ := tryLock_eq_some hlock
    -- A watcher of the hash would have an entry that has not expired.
    have hidle : ∀ watcher ∈ s.running, watcher.feeHash ≠ feeHash := by
      intro watcher hrun heq
      have hlate := hexpired _ (heq ▸ hkept.entry watcher hrun)
      have hearly := htime watcher hrun heq
      omega
    constructor
    · rw [List.map_cons, List.nodup_cons, List.mem_map]
      refine ⟨?_, hkept.exclusive⟩
      rintro ⟨watcher, hrun, heq⟩
      exact hidle watcher hrun heq
    · intro watcher hrun
      rw [hentries]
      rcases List.mem_cons.mp hrun with rfl | hold
      · rw [if_pos rfl]
      · rw [if_neg (hidle watcher hold), hkept.entry watcher hold]
  · exact hkept

theorem Kept.finish (hkept : s.Kept) (watcher : RunningWatcher) :
    (s.step (.finish watcher)).Kept := by
  rw [step]
  split
  next hrun =>
    have hnodup : s.running.Nodup := hkept.exclusive.of_map
    refine ⟨hkept.exclusive.sublist (List.erase_sublist.map _), ?_⟩
    intro other hother
    obtain ⟨hne, hold⟩ := hnodup.mem_erase_iff.mp hother
    have hhash : other.feeHash ≠ watcher.feeHash := fun heq =>
      hne (List.inj_on_of_nodup_map hkept.exclusive hold hrun heq)
    change (s.takerSwapWatchers.erase watcher.feeHash).lookup other.feeHash = _
    rw [HashMap.lookup_erase_if, if_neg hhash, hkept.entry other hold]
  · exact hkept

theorem inTime_of_oneWatcher (hkept : s.Kept)
    (hnext : (s.step (.message feeHash nowSec)).OneWatcher) :
    s.InTime (.message feeHash nowSec) := by
  intro watcher hrun heq
  by_contra hlate
  have hentry := hkept.entry watcher hrun
  rw [heq] at hentry
  obtain ⟨watchers, hlock⟩ : ∃ watchers,
      SwapWatcherLock.tryLock s.takerSwapWatchers feeHash nowSec = some watchers := by
    rw [SwapWatcherLock.tryLock, hentry]
    exact ⟨_, if_neg hlate⟩
  have hexclusive := hnext.exclusive
  rw [step, hlock, List.map_cons, List.nodup_cons] at hexclusive
  exact hexclusive.1 (List.mem_map.mpr ⟨watcher, hrun, heq⟩)

/-- The watchers of a node stay apart exactly as long as no message comes six hours or more
after a running watcher of its hash has taken its lock. -/
theorem one_watcher_iff (events : List WatcherEvent) :
    EveryState step OneWatcher initial events ↔ EveryStep step InTime initial events := by
  refine everyState_iff_everyStep_of_invariant step (fun _ => Kept.oneWatcher) ?_ ?_ ?_
    (everyStep_true step initial events)
  · intro s event hkept _ htime
    cases event with
    | message feeHash nowSec => exact hkept.message htime
    | finish watcher => exact hkept.finish watcher
  · intro s event hkept _ hnext
    cases event with
    | message feeHash nowSec => exact inTime_of_oneWatcher hkept hnext
    | finish watcher => trivial
  · exact ⟨List.nodup_nil, fun _ hrun => by cases hrun⟩

theorem second_watcher_after_expiry :
    ¬EveryState step OneWatcher initial [.message [1] 1700000000, .message [1] 1700021600] := by
  rintro ⟨-, -, hlast⟩
  exact absurd hlast.exclusive (by decide)

end WatcherNode

end KdfProtocol
